import Mathlib.Data.List.Nodup
import StickyRouting.Proofs.Membership
import StickyRouting.Proofs.Streams
import StickyRouting.Proofs.Calls

/-!
# The addresses of tracked connections

Addresses reach a connection in two ways: the request that creates it carries the current ones, and
news from the resolver are handed to every connection that is tracked.  The two ways have to fit
together on every path, or a connection would be left with addresses of the past.
-/

namespace StickyRouting

namespace WorkingSet

variable {connections : WorkingSet}

theorem Keyed.map_ids (hkeyed : connections.Keyed) :
    (connections.list.map Connection.handle).map Handle.id = connections.keys := by
  rw [← Std.ExtTreeMap.map_fst_toList_eq_keys, list, List.map_map, List.map_map]
  apply List.map_congr_left
  rintro ⟨id, connection⟩ hentry
  exact hkeyed id connection (Std.ExtTreeMap.mem_toList_iff_getElem?_eq_some.mp hentry)

theorem Keyed.mem_handles (hkeyed : connections.Keyed) {handle : Handle} :
    handle ∈ connections.list.map Connection.handle ↔
      connections.handleOf? handle.id = some handle := by
  simp only [list, List.mem_map, Prod.exists, handleOf?, Option.map_eq_some_iff]
  constructor
  · rintro ⟨connection, ⟨id, other, hentry, rfl⟩, rfl⟩
    have hid := Std.ExtTreeMap.mem_toList_iff_getElem?_eq_some.mp hentry
    exact ⟨other, by rw [hkeyed id other hid, hid], rfl⟩
  · rintro ⟨connection, hid, hhandle⟩
    have hentry := Std.ExtTreeMap.mem_toList_iff_getElem?_eq_some.mpr hid
    exact ⟨connection, ⟨handle.id, connection, hentry, rfl⟩, hhandle⟩

/-- Every tracked handle is met once when the working set is gone through. -/
theorem Keyed.count_handles (hkeyed : connections.Keyed) (handle : Handle) :
    (connections.list.map Connection.handle).count handle =
      if connections.handleOf? handle.id = some handle then 1 else 0 := by
  have hnodup : (connections.list.map Connection.handle).Nodup := by
    apply List.Nodup.of_map Handle.id
    rw [hkeyed.map_ids]
    exact Std.ExtTreeMap.nodup_keys
  rw [hnodup.count]
  simp only [hkeyed.mem_handles]

theorem Keyed.eq_of_handleOf? (hkeyed : connections.Keyed) {id : ConnectionId} {handle : Handle}
    (hhandle : connections.handleOf? id = some handle) : handle.id = id := by
  obtain ⟨connection, hid, rfl⟩ := Option.map_eq_some_iff.mp hhandle
  exact hkeyed id connection hid

end WorkingSet

namespace Pool

def Tracks (pool : Pool) (handle : Handle) : Prop :=
  pool.connections.handleOf? handle.id = some handle

instance (pool : Pool) : DecidablePred pool.Tracks := fun handle =>
  inferInstanceAs (Decidable (pool.connections.handleOf? handle.id = some handle))

theorem not_tracks_of_isEmpty {pool : Pool} (hempty : pool.connections.isEmpty = true)
    (handle : Handle) : ¬ pool.Tracks handle := by
  rw [Tracks, Std.ExtTreeMap.isEmpty_iff.mp hempty, WorkingSet.handleOf?]
  simp

end Pool

/-- The addresses that an action gives to a handle: those in the request by which the handle is
granted, and those that the handle is told later. -/
def Action.givenTo? (handle : Handle) : Action → Option (List Address)
  | requestConnection addresses _ answer =>
      if answer.handle? = some handle then some addresses else none
  | updateAddresses called addresses => if called = handle then some addresses else none
  | connect _ | publishBindings _ | storeSnapshot _ | reportState _ | note _ => none

def PoolStep.givenTo (step : PoolStep) (handle : Handle) : List (List Address) :=
  step.actions.filterMap (Action.givenTo? handle)

/-- The addresses that a handle has been given so far, oldest first. -/
def Service.givenTo (service : Service) (handle : Handle) : List (List Address) :=
  service.actions.filterMap (Action.givenTo? handle)

theorem PoolStep.givenTo_eq_nil {step : PoolStep} (hanswers : step.answers = [])
    (hcalls : ∀ called addresses, .updateAddresses called addresses ∉ step.calls)
    (handle : Handle) : step.givenTo handle = [] := by
  rw [givenTo, List.filterMap_eq_nil_iff]
  intro action haction
  cases action with
  | requestConnection _ _ _ => exact absurd (List.filterMap_eq_nil_iff.mp hanswers _ haction) nofun
  | updateAddresses called addresses =>
      exact absurd (List.mem_filter.mpr ⟨haction, rfl⟩) (hcalls called addresses)
  | connect _ | publishBindings _ | storeSnapshot _ | reportState _ | note _ => rfl

namespace Pool

variable (pool : Pool) {handle : Handle}

theorem givenTo_create (answer : Answer) (handle : Handle) :
    (pool.create answer).givenTo handle =
      if handle ∈ (pool.create answer).granted then [pool.addresses] else [] := by
  rw [granted_create]
  cases answer with
  | granted new =>
      by_cases hnew : new = handle
      · simp [PoolStep.givenTo, create, Action.givenTo?, Answer.handle?, hnew]
      · simp [PoolStep.givenTo, create, Action.givenTo?, Answer.handle?, hnew, Ne.symm hnew]
  | refused error => simp [PoolStep.givenTo, create, Action.givenTo?, Answer.handle?]

theorem givenTo_refresh (handle : Handle) :
    pool.refresh.filterMap (Action.givenTo? handle) =
      List.replicate ((pool.connections.list.map Connection.handle).count handle)
        pool.addresses := by
  rw [refresh]
  induction pool.connections.list with
  | nil => rfl
  | cons connection connections ih =>
      rw [List.flatMap_cons, List.filterMap_append, ih, List.map_cons, List.count_cons,
        Nat.add_comm, List.replicate_add]
      by_cases hhandle : connection.handle = handle <;> simp [Action.givenTo?, hhandle]

/-- With news from the resolver, every handle that is tracked or granted is given the new
addresses, once. -/
theorem givenTo_resolve_addresses (hkeyed : pool.connections.Keyed) (addresses : List Address)
    (answer : Answer)
    (hknown : pool.Tracks handle ∨
      handle ∈ (pool.resolve (.addresses addresses) answer).granted) :
    (pool.resolve (.addresses addresses) answer).givenTo handle = [addresses] := by
  rw [granted_resolve_addresses] at hknown
  simp only [PoolStep.givenTo, resolve, PoolStep.after, List.filterMap_append]
  by_cases hempty : pool.connections.isEmpty = true
  · rw [if_pos hempty] at hknown ⊢
    have hgranted := hknown.resolve_left (not_tracks_of_isEmpty hempty handle)
    have hcreate := givenTo_create { pool with addresses, growthBlocked := false } answer handle
    rw [granted_create, if_pos hgranted, PoolStep.givenTo] at hcreate
    exact hcreate
  · rw [if_neg hempty] at hknown ⊢
    have htracked : pool.connections.handleOf? handle.id = some handle :=
      hknown.resolve_right List.not_mem_nil
    have hcount := hkeyed.count_handles handle
    rw [if_pos htracked] at hcount
    rw [givenTo_refresh, hcount]
    rfl

theorem givenTo_scaleUp (answer : Answer) (handle : Handle) :
    (pool.scaleUp answer).givenTo handle =
      if handle ∈ (pool.scaleUp answer).granted then [pool.addresses] else [] := by
  have hcreate := pool.givenTo_create answer handle
  rw [granted_create] at hcreate
  rw [granted_scaleUp]
  simp only [PoolStep.givenTo, scaleUp, PoolStep.andThen, PoolStep.after, List.filterMap_append,
    grow]
  split
  · rw [← hcreate]
    cases answer with
    | granted new => exact List.append_nil _
    | refused error => rfl
  · simp [publish, Action.givenTo?]

/-- A handle that is tracked or granted is given the addresses that are current after an operation,
unless the addresses stay as they were and the handle is an old one. -/
theorem givenTo_operate (hkeyed : pool.connections.Keyed) (operation : Operation)
    (answer : Answer)
    (hknown : pool.Tracks handle ∨ handle ∈ (pool.operate operation answer).granted) :
    (pool.operate operation answer).givenTo handle =
        [(pool.operate operation answer).pool.addresses] ∨
      ((pool.operate operation answer).givenTo handle = [] ∧
        handle ∉ (pool.operate operation answer).granted ∧
        (pool.operate operation answer).pool.addresses = pool.addresses) := by
  -- The events at which the channel is asked for nothing and nobody is told addresses.
  have hquiet {event : Event} (hresolved : (Operation.event event).resolved? = none)
      (hanswers : (pool.handle event answer).answers = [])
      (hcalls : ∀ called addresses,
        .updateAddresses called addresses ∉ (pool.handle event answer).calls) :
      (pool.handle event answer).givenTo handle = [] ∧
        handle ∉ (pool.handle event answer).granted ∧
        (Operation.event event).resolved?.getD pool.addresses = pool.addresses := by
    refine ⟨PoolStep.givenTo_eq_nil hanswers hcalls handle, ?_, by rw [hresolved]; rfl⟩
    rw [PoolStep.granted_eq_answers, hanswers]
    exact List.not_mem_nil
  rw [addresses_operate]
  cases operation with
  | create =>
      rw [operate, givenTo_create]
      split
      · exact .inl rfl
      · next hnew => exact .inr ⟨rfl, hnew, rfl⟩
  | publish => exact .inr ⟨rfl, List.not_mem_nil, rfl⟩
  | event event =>
      rw [operate] at hknown ⊢
      cases event with
      | resolved resolution =>
          cases resolution with
          | failed error => exact .inr ⟨rfl, List.not_mem_nil, rfl⟩
          | addresses addresses =>
              exact .inl (pool.givenTo_resolve_addresses hkeyed addresses answer hknown)
      | stateChanged id state =>
          refine .inr (hquiet rfl (pool.answers_changeState id state) ?_)
          rw [Pool.handle, calls_changeState]
          intro called addresses
          split <;> simp
      | bind key id =>
          refine .inr (hquiet rfl (pool.answers_bind key id) ?_)
          rw [Pool.handle, calls_bind]
          exact fun _ _ => List.not_mem_nil
      | unbind key =>
          refine .inr (hquiet rfl (pool.answers_unbind key) ?_)
          rw [Pool.handle, calls_unbind]
          exact fun _ _ => List.not_mem_nil
      | scaleUp =>
          rw [Pool.handle, givenTo_scaleUp]
          split
          · exact .inl rfl
          · next hnew => exact .inr ⟨rfl, hnew, rfl⟩

end Pool

namespace Run

/-- The addresses that the resolver has brought to the pool of a run, oldest first. -/
def resolved : Run → List (List Address)
  | start _ => []
  | next run move =>
      run.resolved ++ ((run.service.job? move).bind fun job => job.operation.resolved?).toList

/-- The current addresses are those that the resolver brought last. -/
theorem addresses_eq (run : Run) {pool : Pool} (hopen : run.service.pool = some pool) :
    pool.addresses = run.resolved.getLastD [] := by
  induction hopen using pool_induction with
  | start config => rfl
  | job run move job hjob heffect ih =>
      rw [Job.outcome, Pool.addresses_operate, resolved, hjob, Option.bind_some, ih]
      cases job.operation.resolved? with
      | none => rw [Option.toList_none, List.append_nil, Option.getD_none]
      | some addresses => rw [Option.toList_some, List.getLastD_concat, Option.getD_some]
  | idle run move pool hopen hjob hfront ih =>
      rw [resolved, hjob, Option.bind_none, Option.toList_none, List.append_nil]
      exact ih

/-- What a tracked handle was given last are the current addresses. -/
theorem getLast?_givenTo (run : Run) {pool : Pool} (hopen : run.service.pool = some pool)
    {handle : Handle} (htracked : pool.Tracks handle) :
    (run.service.givenTo handle).getLast? = some pool.addresses := by
  induction hopen using pool_induction with
  | start config => exact absurd htracked (Pool.not_tracks_of_isEmpty rfl handle)
  | job run move job hjob heffect ih =>
      have hgiven : (run.next move).service.givenTo handle =
          run.service.givenTo handle ++ job.outcome.givenTo handle :=
        Service.observe_of_job _ hjob
      have hknown : handle ∈ job.outcome.granted ∨ job.pool.Tracks handle := by
        rcases (heffect.handleOf?_iff handle.id handle).mp htracked with ⟨hnew, _⟩ | ⟨hold, _⟩
        · exact .inl hnew
        · exact .inr hold
      rcases job.pool.givenTo_operate (run.keyed (Service.pool_of_job hjob)) job.operation
        job.answer hknown.symm with hfresh | ⟨hnone, hnew, hsame⟩
      · rw [hgiven, Job.outcome, hfresh, List.getLast?_concat]
      · rw [hgiven, Job.outcome, hnone, List.append_nil, hsame]
        exact ih (hknown.resolve_left hnew)
  | idle run move pool hopen hjob hfront ih =>
      have hgiven : (run.next move).service.givenTo handle = run.service.givenTo handle :=
        Service.observe_idle (fun _ => rfl) hjob
      rw [hgiven]
      exact ih htracked

end Run

end StickyRouting
