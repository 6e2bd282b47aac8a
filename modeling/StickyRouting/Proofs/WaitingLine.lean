import StickyRouting.Proofs.RequestLedger
import StickyRouting.Proofs.Requests

/-!
# The line in front of the pool

What ended requests call for waits in the queue, behind events of other callers, of the owner and of
pickers that ask for growth.  A line tells the two kinds apart and nothing more.  Of what pickers
and their picks put into the queue, everything but requests for growth is what the ledger says, in
the order in which requests end.
-/

namespace StickyRouting

/-- What waits in the queue: what an ended request calls for, or an event from elsewhere. -/
inductive Waiting where
  | update
  | other (event : Event)
  deriving DecidableEq

/-- How an event waits that a picker or one of its picks has put into the queue. -/
def Waiting.ofQueued (event : Event) : Waiting :=
  if event = .scaleUp then .other .scaleUp else .update

namespace Desk

/-- What a picker or one of its picks puts into the queue in a use. -/
def queuedByPicker (desk : Desk) : Use → List Event
  | .serve (.send _) => []
  | use => (desk.step use).service.queue.drop desk.service.queue.length

def joining (desk : Desk) : Use → List Waiting
  | .serve (.send event) => [.other event]
  | use => (desk.queuedByPicker use).map .ofQueued

end Desk

namespace Usage

/-- What pickers and their picks have put into the queue, oldest first. -/
def queuedByPickers : Usage → List Event
  | start _ => []
  | next usage use => usage.queuedByPickers ++ usage.desk.queuedByPicker use

/-- What waits in the queue, oldest first. -/
def line : Usage → List Waiting
  | start _ => []
  | next usage (.serve (.pump _)) =>
      if usage.desk.service.pool.isSome then usage.line.tail else usage.line
  | next usage use => usage.line ++ usage.desk.joining use

end Usage

namespace Desk

variable {desk : Desk} {ledger : Ledger}

theorem queuedByPicker_eq {use : Use} (hsend : ∀ event, use ≠ .serve (.send event))
    {events : List Event} (hqueue : (desk.step use).service.queue = desk.service.queue ++ events) :
    desk.queuedByPicker use = events := by
  have hdrop : (desk.step use).service.queue.drop desk.service.queue.length = events := by
    rw [hqueue, List.drop_left]
  cases use with
  | serve move =>
      cases move with
      | send event => exact absurd rfl (hsend event)
      | operate _ _ | pump _ | pick _ _ _ | settle _ _ | stopQueue | close => exact hdrop
  | complete _ _ | takeApart _ | call _ _ | drop _ => exact hdrop

/-- A move that neither sends nor takes an event queues requests for growth at most. -/
theorem queue_serve (hheld : desk.service.held = []) (haccepting : desk.service.accepting = true)
    {move : Move} (hsend : ∀ event, move ≠ .send event) (hpump : ∀ answer, move ≠ .pump answer) :
    (desk.serve move).service.queue = desk.service.queue ∨
      (desk.serve move).service.queue = desk.service.queue ++ [.scaleUp] := by
  cases move with
  | operate operation answer => exact .inl (desk.service.queue_operate operation answer)
  | send event => exact absurd rfl (hsend event)
  | pump answer => exact absurd rfl (hpump answer)
  | pick picker choice request =>
      rcases desk.service.pick_cases picker choice request with
        ⟨_, _, _, _, hqueue⟩ | ⟨_, hqueue⟩
      · exact .inr (hqueue.trans (if_pos haccepting))
      · exact .inl hqueue
  | settle index completion =>
      left
      rw [serve_settle hheld]
  | stopQueue => exact .inl rfl
  | close => exact .inl desk.service.queue_close

/-- Apart from requests for growth, a use puts into the queue, for a picker or one of its picks,
what the request calls for that it ends.  It puts it behind all that waits there. -/
theorem Keeps.queue_step (hkeeps : desk.Keeps ledger) (haccepting : desk.service.accepting = true)
    {use : Use} (hsend : ∀ event, use ≠ .serve (.send event))
    (hpump : ∀ answer, use ≠ .serve (.pump answer)) :
    (desk.step use).service.queue = desk.service.queue ++ desk.queuedByPicker use ∧
      (desk.queuedByPicker use).filter (· ≠ .scaleUp) = (ledger.update? use).toList := by
  suffices hsuffices : ∃ events,
      (desk.step use).service.queue = desk.service.queue ++ events ∧
        events.filter (· ≠ .scaleUp) = (ledger.update? use).toList by
    obtain ⟨events, hqueue, hevents⟩ := hsuffices
    rw [queuedByPicker_eq hsend hqueue]
    exact ⟨hqueue, hevents⟩
  by_cases hserve : ∃ move, use = .serve move
  · obtain ⟨move, rfl⟩ := hserve
    have hmove := queue_serve hkeeps.held haccepting
      (fun event hevent => hsend event (congrArg Use.serve hevent))
      (fun answer hanswer => hpump answer (congrArg Use.serve hanswer))
    rcases hmove with hqueue | hqueue
    · exact ⟨[], hqueue.trans (List.append_nil _).symm, rfl⟩
    · exact ⟨[.scaleUp], hqueue, rfl⟩
  · rcases hkeeps.service_step (not_exists.mp hserve) with
      ⟨hends, hservice⟩ | ⟨ended, hends, hservice⟩
    · refine ⟨[], ?_, ?_⟩
      · rw [hservice, List.append_nil]
      · rw [Ledger.update?, hends]
        rfl
    · refine ⟨ended.update?.toList, ?_, ?_⟩
      · rw [hservice, Service.enqueue_queue]
        exact if_pos haccepting
      · rw [Ledger.update?, hends, Option.bind_some, List.filter_eq_self]
        intro event hevent
        exact decide_eq_true (ended.update?_ne_scaleUp (Option.mem_toList.mp hevent))

theorem queuedByPicker_pump (desk : Desk) (answer : Answer) :
    desk.queuedByPicker (.serve (.pump answer)) = [] := by
  change (desk.service.step (.pump answer)).queue.drop desk.service.queue.length = []
  rw [List.drop_eq_nil_iff, Service.queue_pump]
  split
  · rw [List.length_tail]
    exact Nat.sub_le _ _
  · exact Nat.le_refl _

/-- What a picker or one of its picks puts into the queue in a use is, apart from requests for
growth, what the request calls for that the use ends. -/
theorem Keeps.queuedByPicker (hkeeps : desk.Keeps ledger)
    (haccepting : desk.service.accepting = true) (use : Use) :
    (desk.queuedByPicker use).filter (· ≠ .scaleUp) = (ledger.update? use).toList := by
  by_cases hsend : ∃ event, use = .serve (.send event)
  · obtain ⟨event, rfl⟩ := hsend
    rfl
  by_cases hpump : ∃ answer, use = .serve (.pump answer)
  · obtain ⟨answer, rfl⟩ := hpump
    rw [queuedByPicker_pump]
    rfl
  · exact (hkeeps.queue_step haccepting (not_exists.mp hsend) (not_exists.mp hpump)).2

/-- A queue that takes no events never takes any again. -/
theorem Keeps.accepting_of_step (hkeeps : desk.Keeps ledger) {use : Use}
    (haccepting : (desk.step use).service.accepting = true) :
    desk.service.accepting = true := by
  by_cases hserve : ∃ move, use = .serve move
  · obtain ⟨move, rfl⟩ := hserve
    by_cases hmove : move = .stopQueue
    · subst move
      cases haccepting
    · exact (Service.accepting_step hmove).symm.trans haccepting
  · rcases hkeeps.service_step (not_exists.mp hserve) with ⟨_, hservice⟩ | ⟨_, _, hservice⟩
    · rwa [hservice] at haccepting
    · rwa [hservice, Service.enqueue_accepting] at haccepting

end Desk

/-- Whether a queue holds given changes of the affinity table, in their order, where a line has
them wait. -/
inductive Lined : List Waiting → List Event → List Event → Prop
  | nil : Lined [] [] []
  | update (event : Event) {line : List Waiting} {updates queue : List Event}
      (hrest : Lined line updates queue) :
      Lined (.update :: line) (event :: updates) (event :: queue)
  | other (event : Event) {line : List Waiting} {updates queue : List Event}
      (hrest : Lined line updates queue) :
      Lined (.other event :: line) updates (event :: queue)

namespace Lined

theorem append {line behind : List Waiting} {updates later queue events : List Event}
    (hlined : Lined line updates queue) (hbehind : Lined behind later events) :
    Lined (line ++ behind) (updates ++ later) (queue ++ events) := by
  induction hlined with
  | nil => exact hbehind
  | update event _ ih => exact .update event ih
  | other event _ ih => exact .other event ih

theorem ofQueued (events : List Event) :
    Lined (events.map .ofQueued) (events.filter (· ≠ .scaleUp)) events := by
  induction events with
  | nil => exact .nil
  | cons event events ih =>
      by_cases hevent : event = .scaleUp
      · subst event
        exact .other .scaleUp ih
      · rw [List.map_cons, Waiting.ofQueued, if_neg hevent,
          List.filter_cons_of_pos (by simpa using hevent)]
        exact .update event ih

end Lined

namespace Desk

variable {desk : Desk} {ledger : Ledger}

/-- What joins the line in a use is put into the queue, and what the request calls for that the use
ends is put in where the line has it wait. -/
theorem Keeps.lined_joining (hkeeps : desk.Keeps ledger)
    (haccepting : desk.service.accepting = true) {use : Use}
    (hpump : ∀ answer, use ≠ .serve (.pump answer)) :
    ∃ events, (desk.step use).service.queue = desk.service.queue ++ events ∧
      Lined (desk.joining use) (ledger.update? use).toList events := by
  by_cases hsend : ∃ event, use = .serve (.send event)
  · obtain ⟨event, rfl⟩ := hsend
    exact ⟨[event], (Service.enqueue_queue _ _).trans (if_pos haccepting), .other event .nil⟩
  · obtain ⟨hqueue, hevents⟩ := hkeeps.queue_step haccepting (not_exists.mp hsend) hpump
    have hlined := Lined.ofQueued (desk.queuedByPicker use)
    rw [hevents] at hlined
    refine ⟨_, hqueue, ?_⟩
    rw [joining]
    · exact hlined
    · exact fun event => not_exists.mp hsend event

end Desk

namespace Usage

/-- A use that has the pool handle nothing joins its events to the line. -/
theorem line_next (usage : Usage) {use : Use} (hpump : ∀ answer, use ≠ .serve (.pump answer)) :
    (usage.next use).line = usage.line ++ usage.desk.joining use := by
  cases use with
  | serve move =>
      cases move with
      | pump answer => exact absurd rfl (hpump answer)
      | operate _ _ | send _ | pick _ _ _ | settle _ _ | stopQueue | close => rfl
  | complete _ _ | takeApart _ | call _ _ | drop _ => rfl

theorem queuedByPickers_filter (usage : Usage)
    (haccepting : usage.desk.service.accepting = true) :
    usage.queuedByPickers.filter (· ≠ .scaleUp) = usage.ledger.updates := by
  induction usage with
  | start config => rfl
  | next usage use ih =>
      have hbefore := usage.keeps.accepting_of_step haccepting
      rw [queuedByPickers, List.filter_append, ih hbefore,
        usage.keeps.queuedByPicker hbefore, ledger, Ledger.updates_enter]

end Usage

end StickyRouting
