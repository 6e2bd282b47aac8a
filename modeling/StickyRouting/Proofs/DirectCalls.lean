import StickyRouting.Proofs.WaitingLine

/-!
# Completions as direct calls

A pick that is settled binds and releases nothing by itself.  It puts an event into the queue, and
the pool handles the event when its turn comes, maybe after the connection is gone.  A direct run
has no picks and no queue: whenever the pool would handle an event of a settled pick, its owner
calls it with the next entry of the ledger.  The pool and its view of the bindings come out the
same.
-/

namespace StickyRouting

theorem Board.applyAll_front {left right : Board} (hsnapshot : left.snapshot = right.snapshot)
    (hbindings : left.bindings = right.bindings) (actions : List Action) :
    (left.applyAll actions).snapshot = (right.applyAll actions).snapshot ∧
      (left.applyAll actions).bindings = (right.applyAll actions).bindings := by
  constructor
  · rw [snapshot_applyAll, snapshot_applyAll, hsnapshot]
  · rw [bindings_applyAll, bindings_applyAll, hbindings]

namespace Service.SameFront

variable {left right : Service}

theorem symm (hfront : SameFront left right) : SameFront right left :=
  ⟨hfront.pool.symm, hfront.snapshot.symm, hfront.bindings.symm, hfront.actions.symm⟩

theorem carryOut (hfront : SameFront left right) (job : Job) :
    SameFront (left.carryOut job) (right.carryOut job) := by
  obtain ⟨hsnapshot, hbindings⟩ :=
    Board.applyAll_front hfront.snapshot hfront.bindings job.outcome.actions
  exact ⟨rfl, hsnapshot, hbindings, congrArg (· ++ job.outcome.actions) hfront.actions⟩

theorem operate (hfront : SameFront left right) (operation : Pool.Operation) (answer : Answer) :
    SameFront (left.step (.operate operation answer)) (right.step (.operate operation answer)) := by
  have hjob : left.job? (.operate operation answer) = right.job? (.operate operation answer) := by
    rw [job?, job?, hfront.pool]
    rfl
  rw [step, step, hjob]
  cases right.job? (.operate operation answer) with
  | none => exact hfront
  | some job => exact hfront.carryOut job

theorem close (hfront : SameFront left right) :
    SameFront (left.step .close) (right.step .close) := by
  cases hopen : right.pool with
  | none =>
      have hclosed := hfront.pool.trans hopen
      simp only [step, Service.close, hclosed, hopen]
      exact hfront
  | some pool =>
      obtain ⟨hsnapshot, hbindings⟩ :=
        Board.applyAll_front hfront.snapshot hfront.bindings pool.close
      rw [step_close (hfront.pool.trans hopen), step_close hopen]
      exact ⟨rfl, hsnapshot, hbindings, congrArg (· ++ pool.close) hfront.actions⟩

/-- To handle the oldest event of the queue is to be called with it. -/
theorem pump (hfront : SameFront left right) {event : Event}
    (hqueue : right.queue.head? = some event) (answer : Answer) :
    SameFront (left.step (.operate (.event event) answer)) (right.step (.pump answer)) := by
  have hjob : left.job? (.operate (.event event) answer) = right.job? (.pump answer) := by
    simp only [job?, operation?, hfront.pool, hqueue, Option.map_some]
  rw [step, step, hjob]
  cases right.job? (.pump answer) with
  | none => exact hfront
  | some job =>
      have hrest : SameFront left { right with queue := right.queue.tail } :=
        ⟨hfront.pool, hfront.snapshot, hfront.bindings, hfront.actions⟩
      exact hrest.carryOut job

end Service.SameFront

/-- A run in which the owner of a pool calls it directly, and the changes of the affinity table that
are still to be made in it. -/
structure DirectRun where
  run : Run
  remaining : List Event

namespace DirectRun

def next (direct : DirectRun) (move : Move) : DirectRun :=
  { direct with run := direct.run.next move }

/-- Has the pool handle what is first in the line: the next one of the changes, or an event from
elsewhere. -/
def handle (direct : DirectRun) (first : Option Waiting) (answer : Answer) : DirectRun :=
  match first, direct.remaining with
  | some (.other event), _ => direct.next (.operate (.event event) answer)
  | some .update, update :: rest =>
      { run := direct.run.next (.operate (.event update) answer), remaining := rest }
  | some .update, [] | none, _ => direct

end DirectRun

/-- The run in which the owner makes given changes of the affinity table directly, at the moments at
which the pool handles what picks have put into the queue. -/
def Usage.direct (updates : List Event) : Usage → DirectRun
  | start config => ⟨.start config, updates⟩
  | next usage use =>
      let before := usage.direct updates
      match use with
      | .serve (.operate operation answer) => before.next (.operate operation answer)
      | .serve .close => before.next .close
      | .serve (.pump answer) =>
          if usage.desk.service.pool.isSome then before.handle usage.line.head? answer else before
      | _ => before

namespace Desk

variable {desk : Desk} {ledger : Ledger}

theorem serve_front (desk : Desk) (move : Move) :
    Service.SameFront (desk.serve move).service (desk.service.step move) :=
  ⟨rfl, rfl, rfl, rfl⟩

/-- Callers who settle their picks leave alone what only a pool writes to. -/
theorem Keeps.front_step (hkeeps : desk.Keeps ledger) {use : Use}
    (huse : ∀ move, use ≠ .serve move) :
    Service.SameFront (desk.step use).service desk.service := by
  rcases hkeeps.service_step huse with ⟨_, hservice⟩ | ⟨ended, _, hservice⟩
  · rw [hservice]
    exact .refl _
  · obtain ⟨hsnapshot, hbindings⟩ := ended.assignment.pick.release_front desk.service.board
    rw [hservice]
    exact (Service.enqueue_front _ _).trans ⟨rfl, hsnapshot, hbindings, rfl⟩

end Desk

/-- Whether a direct run has come as far as a service: of its changes there remain those that wait
in the queue of the service, and later ones. -/
structure DirectRun.KeepsUp (direct : DirectRun) (service : Service) (line : List Waiting)
    (later : List Event) : Prop where
  waiting : ∃ pending, direct.remaining = pending ++ later ∧ Lined line pending service.queue
  front : Service.SameFront direct.run.service service

namespace DirectRun.KeepsUp

variable {direct : DirectRun} {service next : Service} {line : List Waiting} {later : List Event}

/-- Events join the queue, and those of them that are changes are the ones that come next. -/
theorem join {after : DirectRun} {updates events : List Event} {joining : List Waiting}
    (hkeepsUp : direct.KeepsUp service line (updates ++ later))
    (hjoining : Lined joining updates events) (hqueue : next.queue = service.queue ++ events)
    (hremaining : after.remaining = direct.remaining)
    (hfront : Service.SameFront after.run.service next) :
    after.KeepsUp next (line ++ joining) later := by
  obtain ⟨pending, hpending, hlined⟩ := hkeepsUp.waiting
  refine ⟨⟨pending ++ updates, ?_, ?_⟩, hfront⟩
  · rw [hremaining, hpending, List.append_assoc]
  · rw [hqueue]
    exact hlined.append hjoining

/-- The pool handles the oldest event of the queue. -/
theorem handle (hkeepsUp : direct.KeepsUp service line later) (answer : Answer)
    (hopen : service.pool.isSome) :
    (direct.handle line.head? answer).KeepsUp (service.step (.pump answer)) line.tail later := by
  obtain ⟨run, remaining⟩ := direct
  obtain ⟨⟨pending, hremaining, hlined⟩, hfront⟩ := hkeepsUp
  obtain rfl : remaining = pending ++ later := hremaining
  have htail := (service.queue_pump answer).trans (if_pos hopen)
  generalize hqueue : service.queue = queue at hlined htail
  have hwaiting {line : List Waiting} {updates : List Event}
      (hrest : Lined line updates queue.tail) :
      ∃ pending, updates ++ later = pending ++ later ∧
        Lined line pending (service.step (.pump answer)).queue :=
    ⟨updates, rfl, htail.symm ▸ hrest⟩
  cases hlined with
  | nil =>
      have hjob : service.job? (.pump answer) = none := by
        simp [Service.job?, Service.operation?, hqueue]
      exact ⟨hwaiting .nil, hfront.trans (Service.step_front hjob (by simp)).symm⟩
  | update event hrest =>
      have hfirst : service.queue.head? = some event := by rw [hqueue, List.head?_cons]
      exact ⟨hwaiting hrest, hfront.pump hfirst answer⟩
  | other event hrest =>
      have hfirst : service.queue.head? = some event := by rw [hqueue, List.head?_cons]
      exact ⟨hwaiting hrest, hfront.pump hfirst answer⟩

end DirectRun.KeepsUp

namespace Usage

/-- A use that has the pool handle nothing from the queue is the same for the pool of the direct
run. -/
theorem direct_next (usage : Usage) {use : Use} (hpump : ∀ answer, use ≠ .serve (.pump answer))
    {updates : List Event}
    (hfront : Service.SameFront (usage.direct updates).run.service usage.desk.service) :
    ((usage.next use).direct updates).remaining = (usage.direct updates).remaining ∧
      Service.SameFront ((usage.next use).direct updates).run.service
        (usage.next use).desk.service := by
  by_cases hserve : ∃ move, use = .serve move
  · obtain ⟨move, rfl⟩ := hserve
    have hserved := usage.desk.serve_front move
    have hidle (hjob : usage.desk.service.job? move = none) (hclose : move ≠ .close) :=
      (hfront.trans (Service.step_front hjob hclose).symm).trans hserved.symm
    cases move with
    | operate operation answer =>
        exact ⟨rfl, (hfront.operate operation answer).trans hserved.symm⟩
    | close => exact ⟨rfl, hfront.close.trans hserved.symm⟩
    | pump answer => exact absurd rfl (hpump answer)
    | send _ | pick _ _ _ | settle _ _ | stopQueue =>
        exact ⟨rfl, hidle (by simp [Service.job?, Service.operation?]) (by simp)⟩
  · have hquiet := usage.keeps.front_step (not_exists.mp hserve)
    cases use with
    | serve move => exact absurd ⟨move, rfl⟩ hserve
    | complete _ _ | takeApart _ | call _ _ | drop _ => exact ⟨rfl, hfront.trans hquiet.symm⟩

/-- When the pool handles the oldest event of the queue, the direct run has it handle the first one
of the line. -/
theorem keepsUp_pump (usage : Usage) {updates later : List Event}
    (hkeepsUp : (usage.direct updates).KeepsUp usage.desk.service usage.line later)
    (answer : Answer) :
    let after := usage.next (.serve (.pump answer))
    (after.direct updates).KeepsUp after.desk.service after.line later := by
  intro after
  by_cases hopen : usage.desk.service.pool.isSome
  · have hline : after.line = usage.line.tail := if_pos hopen
    have hdirect : after.direct updates =
        (usage.direct updates).handle usage.line.head? answer := if_pos hopen
    rw [hline, hdirect]
    have hhandled := hkeepsUp.handle answer hopen
    exact ⟨hhandled.waiting, hhandled.front.trans (usage.desk.serve_front (.pump answer)).symm⟩
  · have hline : after.line = usage.line := if_neg hopen
    have hdirect : after.direct updates = usage.direct updates := if_neg hopen
    have hjob : usage.desk.service.job? (.pump answer) = none := by
      rw [Service.job?, Option.not_isSome_iff_eq_none.mp hopen]
    have hidle : usage.desk.service.step (.pump answer) = usage.desk.service := by
      rw [Service.step, hjob, Option.elim_none]
    have hservice : after.desk.service = usage.desk.service :=
      calc
        after.desk.service = { usage.desk.service.step (.pump answer) with held := [] } := rfl
        _ = { usage.desk.service with held := [] } := by rw [hidle]
        _ = usage.desk.service := by rw [← usage.keeps.held]
    rw [hline, hdirect, hservice]
    exact hkeepsUp

/-- A direct run that makes the changes of the ledger, and would make others later, keeps up with
the service. -/
theorem direct_keepsUp (usage : Usage) (haccepting : usage.desk.service.accepting = true)
    (later : List Event) :
    (usage.direct (usage.ledger.updates ++ later)).KeepsUp usage.desk.service usage.line later := by
  induction usage generalizing later with
  | start config => exact ⟨⟨[], rfl, .nil⟩, .refl _⟩
  | next usage use ih =>
      have hbefore := usage.keeps.accepting_of_step haccepting
      -- For the usage before, what the use calls for is the first of the later changes.
      have hupdates : (usage.next use).ledger.updates ++ later =
          usage.ledger.updates ++ ((usage.ledger.update? use).toList ++ later) := by
        rw [ledger, Ledger.updates_enter, List.append_assoc]
      have hkeepsUp := ih hbefore ((usage.ledger.update? use).toList ++ later)
      rw [hupdates]
      by_cases hpump : ∃ answer, use = .serve (.pump answer)
      · obtain ⟨answer, rfl⟩ := hpump
        exact usage.keepsUp_pump hkeepsUp answer
      · obtain ⟨events, hqueue, hjoining⟩ :=
          usage.keeps.lined_joining hbefore (not_exists.mp hpump)
        obtain ⟨hremaining, hfront⟩ := usage.direct_next (not_exists.mp hpump) hkeepsUp.front
        rw [usage.line_next (not_exists.mp hpump)]
        exact hkeepsUp.join hjoining hqueue hremaining hfront

/-- As long as the queue takes events, what pickers and their picks put into it is, apart from
requests for growth, exactly what the requests call for that end, in the order in which they end.
Whenever the pool handles some of that, the owner of a direct run may call the pool with the next
change in the same order instead: the tables, the counts, the view of the bindings and all that the
pool does to the outside are the same, and what remains to be called for is what still waits in the
queue. -/
theorem completions_direct (usage : Usage) (haccepting : usage.desk.service.accepting = true) :
    let direct := usage.direct usage.ledger.updates
    usage.queuedByPickers.filter (· ≠ .scaleUp) = usage.ledger.updates ∧
      Service.SameFront direct.run.service usage.desk.service ∧
        Lined usage.line direct.remaining usage.desk.service.queue := by
  intro direct
  obtain ⟨⟨pending, hremaining, hlined⟩, hfront⟩ := usage.direct_keepsUp haccepting []
  rw [List.append_nil] at hremaining hfront
  refine ⟨usage.queuedByPickers_filter haccepting, hfront, ?_⟩
  rw [hremaining, List.append_nil]
  exact hlined

/-- Two requests bind.  The callback of the second is called first, with an empty key; the event of
the first is handled after the connection is gone.  Two more requests, one that binds nothing and
one that is dropped, call for nothing.  A last request releases the empty key, whatever its
response says, and its event still waits. -/
theorem completions_direct_waiting :
    let second : ConnectionId := ⟨2, by decide⟩
    let usage := ofUses {} [.serve (.grant 0 .first), .serve (.grant 1 second),
      .serve (.handle (.stateChanged .first .ready)),
      .serve (.handle (.stateChanged second .ready)),
      .serve (.pick 2 0 { key := "first", command := .bind }),
      .serve (.pick 2 0 { key := "second", command := .bind }),
      .serve (.pick 2 0 { key := "third" }),
      .serve (.pick 2 0 { key := "fourth", command := .bind }),
      .takeApart 1, .call 0 { key := "" }, .complete 0 {}, .complete 0 { key := "third" }, .drop 0,
      .serve .drain, .serve (.handle (.stateChanged .first .shutdown)), .serve .drain,
      .serve (.pick 2 0 { key := "", command := .unbind }), .complete 0 { key := "first" }]
    let direct := usage.direct usage.ledger.updates
    usage.desk.service.accepting = true ∧
      usage.ledger.updates = [.bind "" second, .bind "first" .first, .unbind ""] ∧
        usage.queuedByPickers.filter (· ≠ .scaleUp) =
          [.bind "" second, .bind "first" .first, .unbind ""] ∧
          direct.run.service.holder? "first" = none ∧
            direct.run.service.holder? "" = some second ∧ direct.remaining = [.unbind ""] := by
  intro second usage direct
  have haccepting : usage.desk.service.accepting = true := by decide +kernel
  have hupdates : usage.ledger.updates =
      [.bind "" second, .bind "first" .first, .unbind ""] := by decide +kernel
  have hline : usage.line = [.update] := by decide +kernel
  have hqueue : usage.desk.service.queue = [.unbind ""] := by decide +kernel
  obtain ⟨hqueued, hfront, hlined⟩ := usage.completions_direct haccepting
  have hholder (key : String) :
      direct.run.service.holder? key = usage.desk.service.holder? key := by
    rw [Service.holder?, hfront.pool, Service.holder?]
  refine ⟨haccepting, hupdates, hqueued.trans hupdates, ?_, ?_, ?_⟩
  · rw [hholder]
    decide +kernel
  · rw [hholder]
    decide +kernel
  · rw [hline, hqueue] at hlined
    change Lined _ direct.remaining _ at hlined
    generalize direct.remaining = remaining at hlined ⊢
    cases hlined with
    | update _ hrest =>
        cases hrest
        rfl

end Usage

end StickyRouting
