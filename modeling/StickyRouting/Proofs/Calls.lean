import StickyRouting.Proofs.Snapshots

/-!
# Calls on handles

A pool calls a handle to have it connect or to tell it addresses.  Each operation is described here
by the list of its calls.  A granted handle is called once, on news from the resolver every tracked
handle is called twice, and a connection that goes idle has its handle called; there are no other
calls.  So no handle is called that is neither tracked nor granted just then.
-/

namespace StickyRouting

namespace Action

def called? : Action → Option Handle
  | connect handle | updateAddresses handle _ => some handle
  | requestConnection _ _ _ | publishBindings _ | storeSnapshot _ | reportState _ | note _ => none

def connected? : Action → Option Handle
  | connect handle => some handle
  | requestConnection _ _ _ | updateAddresses _ _ | publishBindings _ | storeSnapshot _
  | reportState _ | note _ => none

def isCall (action : Action) : Bool :=
  action.called?.isSome

@[simp]
theorem calls_notes (notices : List Notice) : (notices.map note).filter isCall = [] := by
  simp [List.filter_map, Function.comp_def, isCall, called?]

end Action

namespace PoolStep

variable (step : PoolStep) (actions : List Action) (next : Pool → PoolStep)

def calls : List Action :=
  step.actions.filter Action.isCall

/-- The handles that a step calls. -/
def called : List Handle :=
  step.actions.filterMap Action.called?

theorem called_eq : step.called = step.calls.filterMap Action.called? :=
  (Action.filterMap_filter (by
    intro action
    cases action <;> simp [Action.isCall, Action.called?]) _).symm

/-- The handles that a step asks to connect. -/
def connected : List Handle :=
  step.actions.filterMap Action.connected?

theorem connected_eq : step.connected = step.calls.filterMap Action.connected? :=
  (Action.filterMap_filter (by
    intro action
    cases action <;> simp [Action.isCall, Action.called?, Action.connected?]) _).symm

@[simp]
theorem calls_after :
    (step.after actions).calls = actions.filter Action.isCall ++ step.calls := by
  rw [calls, after, List.filter_append, calls]

@[simp]
theorem calls_andThen :
    (step.andThen next).calls = step.calls ++ (next step.pool).calls := by
  rw [andThen, calls_after]
  rfl

end PoolStep

namespace Pool

variable (pool : Pool)

theorem calls_publish : pool.publish.calls = [] := rfl

theorem calls_create (answer : Answer) :
    (pool.create answer).calls = answer.handle?.toList.map .connect := by
  cases answer <;> rfl

theorem calls_refresh : pool.refresh.filter Action.isCall = pool.refresh := by
  rw [List.filter_eq_self]
  intro action haction
  simp only [refresh, List.mem_flatMap, List.mem_cons, List.not_mem_nil, or_false] at haction
  obtain ⟨_, _, rfl | rfl⟩ := haction <;> rfl

theorem calls_resolve_addresses (addresses : List Address) (answer : Answer) :
    (pool.resolve (.addresses addresses) answer).calls =
      if pool.connections.isEmpty then answer.handle?.toList.map .connect
      else { pool with addresses }.refresh := by
  simp only [resolve, PoolStep.calls_after]
  split
  · rw [calls_create]
    rfl
  · exact calls_refresh _

theorem calls_scaleUp (answer : Answer) :
    (pool.scaleUp answer).calls =
      if pool.config.allowsMore pool.connections.size then answer.handle?.toList.map .connect
      else [] := by
  rw [scaleUp, PoolStep.calls_andThen, calls_publish, List.append_nil]
  unfold grow
  split
  · cases answer <;> rfl
  · rfl

theorem calls_bind (key : String) (id : ConnectionId) : (pool.bind key id).calls = [] := by
  rw [bind, PoolStep.calls, List.filter_append, Action.calls_notes, List.nil_append]
  cases (pool.affinity.bind pool.connections key id).outcome with
  | error error => rfl
  | ok outcome => cases outcome <;> rfl

theorem calls_unbind (key : String) : (pool.unbind key).calls = [] := by
  rw [unbind, PoolStep.calls, List.filter_append, Action.calls_notes, List.nil_append]
  split <;> rfl

theorem calls_enter (id : ConnectionId) (handle : Handle) (state : ConnectivityState) :
    (pool.enter id handle state).calls = if state = .idle then [.connect handle] else [] := by
  cases state with
  | shutdown =>
      simp only [enter, ConnectivityState.entryEffect, evict, PoolStep.calls, List.filter_append]
      split <;> rfl
  | idle | connecting | ready | transientFailure => rfl

theorem calls_publishIfChanged (before after aggregateBefore : ConnectivityState) :
    (pool.publishIfChanged before after aggregateBefore).calls = [] := by
  rw [publishIfChanged]
  split <;> rfl

theorem calls_changeState (id : ConnectionId) (state : ConnectivityState) :
    (pool.changeState id state).calls =
      if state = .idle then
        (pool.connections[id]?).toList.map fun connection => .connect connection.handle
      else [] := by
  cases hid : pool.connections[id]? with
  | none =>
      simp only [changeState, hid]
      exact (ite_self _).symm
  | some connection =>
      simp only [changeState, hid, PoolStep.calls_after, PoolStep.calls_andThen, calls_enter,
        calls_publishIfChanged, List.append_nil]
      rfl

theorem granted_create (answer : Answer) :
    (pool.create answer).granted = answer.handle?.toList := by
  cases answer <;> rfl

theorem granted_resolve_addresses (addresses : List Address) (answer : Answer) :
    (pool.resolve (.addresses addresses) answer).granted =
      if pool.connections.isEmpty then answer.handle?.toList else [] := by
  rw [PoolStep.granted_eq, visible_resolve_addresses]
  split
  · cases answer <;> rfl
  · rfl

theorem granted_scaleUp (answer : Answer) :
    (pool.scaleUp answer).granted =
      if pool.config.allowsMore pool.connections.size then answer.handle?.toList else [] := by
  rw [PoolStep.granted_eq, visible_scaleUp, visible_grow]
  split
  · cases answer <;> rfl
  · rfl

theorem called_connects (handles : List Handle) :
    (handles.map Action.connect).filterMap Action.called? = handles := by
  rw [List.filterMap_map]
  exact List.filterMap_some

theorem called_create (answer : Answer) :
    (pool.create answer).called = answer.handle?.toList := by
  rw [PoolStep.called_eq, calls_create, called_connects]

theorem called_resolve_addresses (addresses : List Address) (answer : Answer) :
    (pool.resolve (.addresses addresses) answer).called =
      if pool.connections.isEmpty then answer.handle?.toList
      else pool.connections.list.flatMap fun connection =>
        [connection.handle, connection.handle] := by
  rw [PoolStep.called_eq, calls_resolve_addresses]
  split
  · exact called_connects _
  · rw [refresh, List.filterMap_flatMap]
    rfl

theorem connected_connects (handles : List Handle) :
    (handles.map Action.connect).filterMap Action.connected? = handles := by
  rw [List.filterMap_map]
  exact List.filterMap_some

theorem connected_create (answer : Answer) :
    (pool.create answer).connected = (pool.create answer).granted := by
  rw [PoolStep.connected_eq, calls_create, connected_connects, granted_create]

theorem connected_scaleUp (answer : Answer) :
    (pool.scaleUp answer).connected = (pool.scaleUp answer).granted := by
  rw [PoolStep.connected_eq, calls_scaleUp, granted_scaleUp]
  split
  · exact connected_connects _
  · rfl

/-- With news from the resolver, every tracked handle is asked to connect, or the one that is
granted. -/
theorem connected_resolve_addresses (addresses : List Address) (answer : Answer) :
    (pool.resolve (.addresses addresses) answer).connected =
      if pool.connections.isEmpty then (pool.resolve (.addresses addresses) answer).granted
      else pool.connections.list.map Connection.handle := by
  rw [PoolStep.connected_eq, calls_resolve_addresses, granted_resolve_addresses]
  split
  · exact connected_connects _
  · rw [refresh, List.filterMap_flatMap, List.map_eq_flatMap]
    rfl

theorem called_changeState (id : ConnectionId) (state : ConnectivityState) :
    (pool.changeState id state).called =
      if state = .idle then (pool.connections[id]?).toList.map Connection.handle else [] := by
  rw [PoolStep.called_eq, calls_changeState]
  split
  · cases pool.connections[id]? <;> rfl
  · rfl

theorem connected_changeState (id : ConnectionId) (state : ConnectivityState) :
    (pool.changeState id state).connected =
      if state = .idle then (pool.connections[id]?).toList.map Connection.handle else [] := by
  rw [PoolStep.connected_eq, calls_changeState]
  split
  · cases pool.connections[id]? <;> rfl
  · rfl

theorem called_scaleUp (answer : Answer) :
    (pool.scaleUp answer).called =
      if pool.config.allowsMore pool.connections.size then answer.handle?.toList else [] := by
  rw [PoolStep.called_eq, calls_scaleUp]
  split
  · exact called_connects _
  · rfl

/-- Every handle that an operation calls is tracked, or is granted in the operation. -/
theorem called_operate {operation : Operation} {answer : Answer} {handle : Handle}
    (hcalled : handle ∈ (pool.operate operation answer).called) :
    (∃ (id : ConnectionId) (connection : Connection),
        pool.connections[id]? = some connection ∧ connection.handle = handle) ∨
      handle ∈ (pool.operate operation answer).granted := by
  cases operation with
  | create =>
      rw [operate, called_create, ← granted_create] at hcalled
      exact .inr hcalled
  | publish => cases hcalled
  | event event =>
      cases event with
      | resolved resolution =>
          cases resolution with
          | failed error => cases hcalled
          | addresses addresses =>
              rw [operate, Pool.handle, called_resolve_addresses] at hcalled
              rw [operate, Pool.handle, granted_resolve_addresses]
              split
              · next hempty =>
                  rw [if_pos hempty] at hcalled
                  exact .inr hcalled
              · next hsome =>
                  rw [if_neg hsome] at hcalled
                  simp only [WorkingSet.list, List.mem_flatMap, List.mem_map, List.mem_cons,
                    List.not_mem_nil, or_false, or_self] at hcalled
                  obtain ⟨_, ⟨⟨id, connection⟩, hentry, rfl⟩, rfl⟩ := hcalled
                  have hid := Std.ExtTreeMap.mem_toList_iff_getElem?_eq_some.mp hentry
                  exact .inl ⟨id, connection, hid, rfl⟩
      | stateChanged id state =>
          rw [operate, Pool.handle, called_changeState] at hcalled
          split at hcalled
          · obtain ⟨connection, hid, rfl⟩ := List.mem_map.mp hcalled
            exact .inl ⟨id, connection, Option.mem_toList.mp hid, rfl⟩
          · cases hcalled
      | bind key id =>
          rw [operate, Pool.handle, PoolStep.called_eq, calls_bind] at hcalled
          cases hcalled
      | unbind key =>
          rw [operate, Pool.handle, PoolStep.called_eq, calls_unbind] at hcalled
          cases hcalled
      | scaleUp =>
          rw [operate, Pool.handle, called_scaleUp, ← granted_scaleUp] at hcalled
          exact .inr hcalled

end Pool

namespace Service

/-- The handles that were called so far, one entry for each call. -/
def called (service : Service) : List Handle :=
  service.actions.filterMap Action.called?

/-- The handles that were asked to connect so far, one entry for each time. -/
def connected (service : Service) : List Handle :=
  service.actions.filterMap Action.connected?

theorem connected_of_job {service : Service} {move : Move} {job : Job}
    (hjob : service.job? move = some job) :
    (service.step move).connected = service.connected ++ job.outcome.connected :=
  observe_of_job Action.connected? hjob

theorem connected_idle {service : Service} {move : Move} (hjob : service.job? move = none) :
    (service.step move).connected = service.connected :=
  observe_idle (fun _ => rfl) hjob

/-- A move calls handles only where it gives the pool a job. -/
theorem called_step (service : Service) (move : Move) :
    ∃ new, (service.step move).called = service.called ++ new ∧
      ∀ handle ∈ new, ∃ job, service.job? move = some job ∧ handle ∈ job.outcome.called := by
  cases hjob : service.job? move with
  | some job =>
      exact ⟨job.outcome.called, observe_of_job Action.called? hjob,
        fun handle hcalled => ⟨job, rfl, hcalled⟩⟩
  | none =>
      refine ⟨[], ?_, nofun⟩
      rw [List.append_nil]
      exact observe_idle (fun _ => rfl) hjob

end Service

end StickyRouting
