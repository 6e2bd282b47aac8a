import StickyRouting.Proofs.Moves

/-!
# What an operation does to the outside

An action is visible if it calls into the channel or writes to the board; the others are
notices and calls on handles.  Each operation is described here by the list of its visible
actions.  Whatever is observed of the actions of a run is observed of the visible ones.
-/

namespace StickyRouting

namespace Action

def isVisible : Action → Bool
  | requestConnection _ _ _ | publishBindings _ | storeSnapshot _ | reportState _ => true
  | connect _ | updateAddresses _ _ | note _ => false

/-- Whether a snapshot is written or reported. -/
def isPublication : Action → Bool
  | storeSnapshot _ | reportState _ => true
  | requestConnection _ _ _ | publishBindings _ | connect _ | updateAddresses _ _
  | note _ => false

/-- Leaving out actions of which nothing is observed changes no observation. -/
theorem filterMap_filter {α : Type} {keep : Action → Bool} {observe : Action → Option α}
    (hobserve : ∀ action, keep action = false → observe action = none)
    (actions : List Action) :
    (actions.filter keep).filterMap observe = actions.filterMap observe := by
  rw [List.filterMap_filter]
  congr 1
  funext action
  cases hkeep : keep action with
  | true => rfl
  | false => simp [hobserve action hkeep]

/-- The pickers of later actions are published behind those of earlier ones. -/
theorem published_append (earlier later : List Action) :
    published (earlier ++ later) =
      published earlier ++ (later.filterMap snapshotStored?).map Snapshot.picker := by
  rw [published, List.filterMap_append, List.map_append, published, List.cons_append]

@[simp]
theorem visible_notes (notices : List Notice) :
    (notices.map Action.note).filter isVisible = [] := by
  simp [List.filter_map, Function.comp_def, isVisible]

end Action

namespace PoolStep

variable (step : PoolStep) (actions : List Action) (next : Pool → PoolStep)

/-- The visible actions of a step. -/
def visible : List Action :=
  step.actions.filter Action.isVisible

@[simp]
theorem after_pool : (step.after actions).pool = step.pool := rfl

@[simp]
theorem andThen_pool : (step.andThen next).pool = (next step.pool).pool := rfl

@[simp]
theorem visible_after :
    (step.after actions).visible = actions.filter Action.isVisible ++ step.visible := by
  rw [visible, after, List.filter_append, visible]

@[simp]
theorem visible_andThen :
    (step.andThen next).visible = step.visible ++ (next step.pool).visible := by
  rw [andThen, visible_after]
  rfl

theorem granted_eq : step.granted = step.visible.filterMap Action.granted? :=
  (Action.filterMap_filter (by
    intro action
    cases action <;> simp [Action.isVisible, Action.granted?]) _).symm

def bindings : List AffinityTable :=
  step.actions.filterMap Action.bindingsPublished?

theorem bindings_eq : step.bindings = step.visible.filterMap Action.bindingsPublished? :=
  (Action.filterMap_filter (by
    intro action
    cases action <;> simp [Action.isVisible, Action.bindingsPublished?]) _).symm

def stored : List Snapshot :=
  step.actions.filterMap Action.snapshotStored?

/-- The visible actions of a step that write or report a snapshot. -/
def publications : List Action :=
  step.visible.filter Action.isPublication

theorem publications_eq : step.publications = step.actions.filter Action.isPublication := by
  rw [publications, visible, List.filter_filter]
  congr 1
  funext action
  cases action <;> rfl

theorem stored_eq : step.stored = step.publications.filterMap Action.snapshotStored? := by
  rw [publications_eq, stored, Action.filterMap_filter]
  intro action
  cases action <;> simp [Action.isPublication, Action.snapshotStored?]

theorem reported_eq : step.reported = step.publications.filterMap Action.snapshotReported? := by
  rw [publications_eq, reported, Action.filterMap_filter]
  intro action
  cases action <;> simp [Action.isPublication, Action.snapshotReported?]

end PoolStep

namespace Board

variable (board : Board) (actions : List Action)

theorem snapshot_applyAll :
    (board.applyAll actions).snapshot =
      (actions.filterMap Action.snapshotStored?).getLastD board.snapshot := by
  induction actions generalizing board with
  | nil => rfl
  | cons action actions ih =>
      cases action with
      | storeSnapshot snapshot =>
          calc
            (board.applyAll (.storeSnapshot snapshot :: actions)).snapshot =
                (actions.filterMap Action.snapshotStored?).getLastD snapshot := ih _
            _ = (snapshot :: actions.filterMap Action.snapshotStored?).getLastD
                board.snapshot := by rw [List.getLastD_cons]
      | requestConnection _ _ _ | connect _ | updateAddresses _ _ | publishBindings _
      | reportState _ | note _ => exact ih _

theorem bindings_applyAll :
    (board.applyAll actions).bindings =
      (actions.filterMap Action.bindingsPublished?).getLastD board.bindings := by
  induction actions generalizing board with
  | nil => rfl
  | cons action actions ih =>
      cases action with
      | publishBindings bindings =>
          calc
            (board.applyAll (.publishBindings bindings :: actions)).bindings =
                (actions.filterMap Action.bindingsPublished?).getLastD bindings := ih _
            _ = (bindings :: actions.filterMap Action.bindingsPublished?).getLastD
                board.bindings := by rw [List.getLastD_cons]
      | requestConnection _ _ _ | connect _ | updateAddresses _ _ | storeSnapshot _
      | reportState _ | note _ => exact ih _

end Board

namespace Pool

variable (pool : Pool)

/-- What is published for the pool as it is now. -/
def snapshot : Snapshot :=
  ⟨pool.state, pool.picker⟩

theorem visible_publish :
    pool.publish.visible = [.storeSnapshot pool.snapshot, .reportState pool.snapshot] := rfl

theorem visible_create (answer : Answer) :
    (pool.create answer).visible =
      [.requestConnection pool.addresses pool.config.healthCheck answer] := by
  cases answer <;> rfl

theorem visible_refresh : pool.refresh.filter Action.isVisible = [] := by
  rw [List.filter_eq_nil_iff]
  intro action haction
  simp only [refresh, List.mem_flatMap, List.mem_cons, List.not_mem_nil, or_false] at haction
  obtain ⟨_, _, rfl | rfl⟩ := haction <;> exact Bool.false_ne_true

theorem visible_resolve_addresses (addresses : List Address) (answer : Answer) :
    (pool.resolve (.addresses addresses) answer).visible =
      if pool.connections.isEmpty then
        [.requestConnection addresses pool.config.healthCheck answer]
      else [] := by
  simp only [resolve, PoolStep.visible_after]
  split
  · rw [visible_create]
    rfl
  · exact visible_refresh _

theorem visible_grow (answer : Answer) :
    (pool.grow answer).visible =
      if pool.config.allowsMore pool.connections.size then
        [.requestConnection pool.addresses pool.config.healthCheck answer]
      else [] := by
  unfold grow
  split
  · cases answer <;> rfl
  · rfl

theorem visible_scaleUp (answer : Answer) :
    (pool.scaleUp answer).visible =
      (pool.grow answer).visible ++
        [.storeSnapshot (pool.grow answer).pool.snapshot,
          .reportState (pool.grow answer).pool.snapshot] := by
  rw [scaleUp, PoolStep.visible_andThen, visible_publish]

theorem visible_bind (key : String) (id : ConnectionId) :
    (pool.bind key id).visible =
      match (pool.affinity.bind pool.connections key id).outcome with
      | .ok .inserted => [.publishBindings (pool.bind key id).pool.affinity]
      | .ok (.incremented _) | .error _ => [] := by
  rw [bind, PoolStep.visible, List.filter_append, Action.visible_notes, List.nil_append]
  cases (pool.affinity.bind pool.connections key id).outcome with
  | error error => rfl
  | ok outcome => cases outcome <;> rfl

theorem visible_unbind (key : String) :
    (pool.unbind key).visible =
      if (pool.affinity.unbind pool.connections key).released then
        [.publishBindings (pool.unbind key).pool.affinity]
      else [] := by
  rw [unbind, PoolStep.visible, List.filter_append, Action.visible_notes, List.nil_append]
  split <;> rfl

theorem visible_evict (id : ConnectionId) :
    (pool.evict id).visible =
      if (pool.affinity.keysOf id).isEmpty then []
      else [.publishBindings (pool.affinity.purge id)] := by
  unfold evict
  simp only [PoolStep.visible, List.filter_append]
  split <;> rfl

theorem enter_of_ne (id : ConnectionId) (handle : Handle) {state : ConnectivityState}
    (hstate : state ≠ .shutdown) :
    (pool.enter id handle state).pool = pool ∧ (pool.enter id handle state).visible = [] := by
  cases state with
  | shutdown => exact absurd rfl hstate
  | idle | connecting | ready | transientFailure => exact ⟨rfl, rfl⟩

theorem visible_publishIfChanged (before after aggregateBefore : ConnectivityState) :
    (pool.publishIfChanged before after aggregateBefore).visible =
      if shouldRepublish before after aggregateBefore pool.state then
        [.storeSnapshot pool.snapshot, .reportState pool.snapshot]
      else [] := by
  rw [publishIfChanged]
  split <;> rfl

theorem visible_changeState_unknown {id : ConnectionId} (hid : pool.connections[id]? = none)
    (state : ConnectivityState) : (pool.changeState id state).visible = [] := by
  simp only [changeState, hid]
  rfl

theorem visible_changeState {id : ConnectionId} {connection : Connection}
    (hid : pool.connections[id]? = some connection) (state : ConnectivityState) :
    (pool.changeState id state).visible =
      (let entered := { pool with
        connections := pool.connections.insert id { connection with state } }.enter id
          connection.handle state
      let recorded := entered.pool.recordTransition connection.state state
      entered.visible ++
        (recorded.publishIfChanged connection.state state pool.state).visible) := by
  simp only [changeState, hid, PoolStep.visible_after, PoolStep.visible_andThen]
  rfl

end Pool

end StickyRouting
