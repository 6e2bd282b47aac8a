import Mathlib.Data.List.InsertIdx
import StickyRouting.Proofs.DeskRuns

/-!
# The ledger of requests

The requests of callers are entered in a ledger when they are served, follow the picks and callbacks
that callers hold, and are written off when they end.  The ledger says what each of them calls for
in the end.  It is kept by the requests alone, and yet it tells of every pick in the callers' hands.
-/

namespace StickyRouting

/-- A request and the connection that was chosen for it. -/
structure Assignment where
  request : PickRequest
  connection : ReadyConnection

/-- How a request ended: with a report, or with its pick dropped. -/
inductive Ending where
  | reported (completion : Completion)
  | dropped

structure Ended where
  assignment : Assignment
  ending : Ending

/-- The change of the affinity table that an ended request calls for.  Only a report of success
calls for one. -/
def Ended.update? : Ended → Option Event
  | ⟨_, .dropped⟩ => none
  | ⟨⟨request, connection⟩, .reported completion⟩ =>
      match request.command, completion.error, completion.key, request.key with
      | .bind, none, some key, _ => some (.bind key connection.id)
      | .bind, none, none, some key => some (.bind key connection.id)
      | .unbind, none, _, some key => some (.unbind key)
      | _, _, _, _ => none

/-- The requests of callers, in the order in which their picks and callbacks are held, and those
that have ended, in the order in which they did. -/
structure Ledger where
  inHand : List Assignment := []
  takenOut : List Assignment := []
  ended : List Ended := []

namespace Ledger

/-- The request that a use ends. -/
def ends? (ledger : Ledger) : Use → Option Ended
  | .complete index completion => (ledger.inHand[index]?).map (⟨·, .reported completion⟩)
  | .call index completion => (ledger.takenOut[index]?).map (⟨·, .reported completion⟩)
  | .drop index => (ledger.inHand[index]?).map (⟨·, .dropped⟩)
  | .serve _ | .takeApart _ => none

/-- The ledger after a use in which some requests were served. -/
def enter (ledger : Ledger) (served : List Assignment) (use : Use) : Ledger where
  inHand :=
    match use with
    | .serve _ => ledger.inHand ++ served
    | .complete index _ | .takeApart index | .drop index => ledger.inHand.eraseIdx index
    | .call _ _ => ledger.inHand
  takenOut :=
    match use with
    | .takeApart index => ledger.takenOut ++ (ledger.inHand[index]?).toList
    | .call index _ => ledger.takenOut.eraseIdx index
    | .serve _ | .complete _ _ | .drop _ => ledger.takenOut
  ended := ledger.ended ++ (ledger.ends? use).toList

/-- What the requests that have ended call for, in the order in which they did. -/
def updates (ledger : Ledger) : List Event :=
  ledger.ended.filterMap Ended.update?

def update? (ledger : Ledger) (use : Use) : Option Event :=
  (ledger.ends? use).bind Ended.update?

theorem updates_enter (ledger : Ledger) (served : List Assignment) (use : Use) :
    (ledger.enter served use).updates = ledger.updates ++ (ledger.update? use).toList := by
  calc
    (ledger.enter served use).updates =
        (ledger.ended ++ (ledger.ends? use).toList).filterMap Ended.update? := rfl
    _ = ledger.updates ++ (ledger.ends? use).toList.filterMap Ended.update? :=
      List.filterMap_append
    _ = ledger.updates ++ (ledger.update? use).toList := by
      rw [update?]
      cases ledger.ends? use with
      | none => rfl
      | some ended => cases hupdate : ended.update? <;> simp [hupdate]

end Ledger

def Desk.assigned (desk : Desk) : Use → List Assignment
  | .serve (.pick picker choice request) =>
      (desk.opened (.serve (.pick picker choice request))).map fun pick =>
        ⟨request, pick.connection⟩
  | _ => []

def Usage.ledger : Usage → Ledger
  | start _ => {}
  | next usage use => usage.ledger.enter (usage.desk.assigned use) use

namespace Assignment

def pick (assignment : Assignment) : Pick :=
  ⟨assignment.connection, assignment.request.command, assignment.request.key⟩

theorem events_reported (assignment : Assignment) (completion : Completion) :
    assignment.pick.events completion =
      (Ended.update? ⟨assignment, .reported completion⟩).toList := by
  obtain ⟨⟨key, command⟩, connection⟩ := assignment
  obtain ⟨error, made⟩ := completion
  cases error <;> cases command <;> cases made <;> cases key <;> rfl

end Assignment

/-- What an ended request calls for is no request for growth. -/
theorem Ended.update?_ne_scaleUp (ended : Ended) {event : Event}
    (hupdate : ended.update? = some event) : event ≠ .scaleUp := by
  obtain ⟨⟨request, connection⟩, ending⟩ := ended
  cases ending with
  | dropped => cases hupdate
  | reported completion =>
      rw [update?] at hupdate
      split at hupdate
      all_goals
        cases hupdate
      all_goals simp

/-- Whether a ledger tells of the picks and callbacks that callers hold. -/
structure Desk.Keeps (desk : Desk) (ledger : Ledger) : Prop where
  picks : desk.picks = ledger.inHand.map fun assignment => .ofPick assignment.pick
  callbacks : desk.callbacks = ledger.takenOut.map fun assignment => some assignment.pick
  /-- The service itself holds no picks. -/
  held : desk.service.held = []

namespace Desk

variable {desk : Desk} {ledger : Ledger}

/-- A pick that is made goes by the request that it was made for. -/
theorem held_pick (hheld : desk.service.held = []) (picker choice : Nat) (request : PickRequest)
    {pick : Pick} (hpick : pick ∈ (desk.service.pick picker choice request).held) :
    pick = Assignment.pick ⟨request, pick.connection⟩ := by
  cases hpicker : desk.service.published[picker]? with
  | none =>
      rw [Service.pick_of_unpublished hpicker, hheld] at hpick
      cases hpick
  | some published =>
      rw [Service.pick_of_published hpicker, Service.enqueue_held, hheld, List.nil_append] at hpick
      rcases published.pickBy_outcome choice desk.service.board request with
        ⟨connection, _, houtcome⟩ | ⟨_, houtcome⟩ | ⟨_, _, _, houtcome⟩
      · rw [houtcome] at hpick
        cases List.mem_singleton.mp hpick
        rfl
      all_goals
        rw [houtcome] at hpick
        cases hpick

/-- Nothing but a pick makes a service hold one. -/
theorem held_step (hheld : desk.service.held = []) {move : Move}
    (hpick : ∀ picker choice request, move ≠ .pick picker choice request) :
    (desk.service.step move).held = [] := by
  by_cases hsettle : ∀ index completion, move ≠ .settle index completion
  · rw [(desk.service.streams_quiet hpick hsettle).1, hheld]
  · simp only [ne_eq, not_forall, not_not] at hsettle
    obtain ⟨index, completion, rfl⟩ := hsettle
    rw [Service.step, Service.settle_of_not_held, hheld]
    rw [hheld]
    rfl

/-- The picks that a use makes are those of the requests that it serves. -/
theorem opened_eq (hheld : desk.service.held = []) (use : Use) :
    desk.opened use = (desk.assigned use).map Assignment.pick := by
  cases use with
  | serve move =>
      cases move with
      | pick picker choice request =>
          have hsame (pick : Pick) (hpick : pick ∈ (desk.service.pick picker choice request).held) :
              Assignment.pick ⟨request, pick.connection⟩ = pick :=
            (held_pick hheld picker choice request hpick).symm
          rw [assigned, List.map_map]
          exact ((List.map_congr_left hsame).trans (List.map_id _)).symm
      | operate _ _ | send _ | pump _ | settle _ _ | stopQueue | close =>
          exact held_step hheld (by simp)
  | complete _ _ | takeApart _ | call _ _ | drop _ => rfl

theorem picks_step (desk : Desk) (use : Use) :
    (desk.step use).picks =
      match use with
      | .serve _ => desk.picks ++ (desk.opened use).map .ofPick
      | .complete index _ | .takeApart index | .drop index => desk.picks.eraseIdx index
      | .call _ _ => desk.picks := by
  cases use with
  | serve move => rfl
  | complete index completion | takeApart index | drop index =>
      rw [step]
      cases hheld : desk.picks[index]? with
      | none => exact (List.eraseIdx_of_length_le (List.getElem?_eq_none_iff.mp hheld)).symm
      | some held => rfl
  | call index completion =>
      rw [step]
      cases desk.callbacks[index]? <;> rfl

theorem callbacks_step (desk : Desk) (use : Use) :
    (desk.step use).callbacks =
      match use with
      | .takeApart index =>
          desk.callbacks ++ (desk.picks[index]?).toList.map HeldPick.callback
      | .call index _ => desk.callbacks.eraseIdx index
      | .serve _ | .complete _ _ | .drop _ => desk.callbacks := by
  cases use with
  | serve move => rfl
  | complete index completion | drop index =>
      rw [step]
      cases desk.picks[index]? <;> rfl
  | takeApart index =>
      simp only [step]
      cases desk.picks[index]? with
      | none => exact (List.append_nil _).symm
      | some held => rfl
  | call index completion =>
      rw [step]
      cases hcallback : desk.callbacks[index]? with
      | none => exact (List.eraseIdx_of_length_le (List.getElem?_eq_none_iff.mp hcallback)).symm
      | some callback => rfl

/-- A use is entered in the ledger. -/
theorem Keeps.step (hkeeps : desk.Keeps ledger) {use : Use}
    (hnext : (desk.step use).service.held = []) :
    (desk.step use).Keeps (ledger.enter (desk.assigned use) use) := by
  obtain ⟨hpicks, hcallbacks, hheld⟩ := hkeeps
  refine ⟨?_, ?_, hnext⟩
  · rw [picks_step]
    cases use with
    | serve move =>
        simp only [Ledger.enter, hpicks, opened_eq hheld, List.map_append, List.map_map]
        rfl
    | complete index _ | takeApart index | drop index =>
        simp only [Ledger.enter, hpicks, List.eraseIdx_map]
    | call index completion => exact hpicks
  · rw [callbacks_step]
    cases use with
    | takeApart index =>
        simp only [Ledger.enter, hcallbacks, hpicks, List.getElem?_map, List.map_append]
        cases ledger.inHand[index]? <;> rfl
    | call index completion => simp only [Ledger.enter, hcallbacks, List.eraseIdx_map]
    | serve _ | complete _ _ | drop _ => exact hcallbacks

/-- A use that is none of the service ends a request and puts into the queue what that calls for, or
it leaves the service alone. -/
theorem Keeps.service_step (hkeeps : desk.Keeps ledger) {use : Use}
    (huse : ∀ move, use ≠ .serve move) :
    (ledger.ends? use = none ∧ (desk.step use).service = desk.service) ∨
      ∃ ended, ledger.ends? use = some ended ∧
        (desk.step use).service =
          { desk.service with
            board := ended.assignment.pick.release desk.service.board
            : Service }.enqueue ended.update?.toList := by
  cases use with
  | serve move => exact absurd rfl (huse move)
  | complete index completion =>
      simp only [Desk.step, Ledger.ends?, hkeeps.picks, List.getElem?_map]
      cases ledger.inHand[index]? with
      | none => exact .inl ⟨rfl, rfl⟩
      | some assignment =>
          refine .inr ⟨_, rfl, ?_⟩
          simp only [Option.map_some, HeldPick.complete_eq, ← assignment.events_reported]
          rfl
  | takeApart index =>
      refine .inl ⟨rfl, ?_⟩
      simp only [Desk.step]
      cases desk.picks[index]? with
      | none => rfl
      | some held => exact Service.enqueue_nil _
  | call index completion =>
      simp only [Desk.step, Ledger.ends?, hkeeps.callbacks, List.getElem?_map]
      cases ledger.takenOut[index]? with
      | none => exact .inl ⟨rfl, rfl⟩
      | some assignment =>
          refine .inr ⟨_, rfl, ?_⟩
          simp only [Option.map_some, ← assignment.events_reported]
          rfl
  | drop index =>
      simp only [Desk.step, Ledger.ends?, hkeeps.picks, List.getElem?_map]
      cases ledger.inHand[index]? with
      | none => exact .inl ⟨rfl, rfl⟩
      | some assignment => exact .inr ⟨_, rfl, rfl⟩

end Desk

namespace Usage

theorem service_held (usage : Usage) : usage.desk.service.held = [] := by
  obtain ⟨run, hshows, _⟩ := usage.exists_run
  rw [hshows.service]

theorem keeps (usage : Usage) : usage.desk.Keeps usage.ledger := by
  induction usage with
  | start config => exact ⟨rfl, rfl, rfl⟩
  | next usage use ih => exact ih.step (usage.next use).service_held

end Usage

end StickyRouting
