import StickyRouting.Proofs.HeldPicks

/-!
# A desk is a run

A desk, where callers work with their picks, is a run in which some of the moves settle picks.  What
holds in every run therefore holds at every desk, with the outstanding picks for the held ones.
-/

namespace StickyRouting

theorem Service.enqueue_with_held (service : Service) (held : List Pick) (events : List Event) :
    { service with held }.enqueue events = { service.enqueue events with held } := by
  rw [enqueue, enqueue]
  split <;> rfl

/-- Unless a move settles a held pick, it does the same whichever picks are held. -/
theorem Service.step_with_held (service : Service) {move : Move}
    (hmove : ∀ index completion, move ≠ .settle index completion) :
    ∃ new, (service.step move).held = service.held ++ new ∧
      { service with held := [] }.step move = { service.step move with held := new } := by
  cases move with
  | operate operation answer =>
      refine ⟨[], ?_⟩
      have hsame : { service with held := [] }.job? (.operate operation answer) =
          service.job? (.operate operation answer) := rfl
      rw [step, step, hsame, List.append_nil]
      cases service.job? (.operate operation answer) <;> exact ⟨rfl, rfl⟩
  | pump answer =>
      refine ⟨[], ?_⟩
      have hsame : { service with held := [] }.job? (.pump answer) =
          service.job? (.pump answer) := rfl
      rw [step, step, hsame, List.append_nil]
      cases service.job? (.pump answer) <;> exact ⟨rfl, rfl⟩
  | send event =>
      exact ⟨[], by rw [List.append_nil]; exact enqueue_held service [event],
        enqueue_with_held service [] [event]⟩
  | pick picker choice request =>
      have hsame : { service with held := [] }.published = service.published := rfl
      cases hpicker : service.published[picker]? with
      | none =>
          rw [step, step, pick_of_unpublished hpicker, pick_of_unpublished (hsame ▸ hpicker)]
          exact ⟨[], (List.append_nil _).symm, rfl⟩
      | some found =>
          rw [step, step, pick_of_published hpicker, pick_of_published (hsame ▸ hpicker)]
          let outcome := found.pickBy (tieBreak choice) service.board request
          let new := outcome.result.toOption.toList
          let picked : Service :=
            { service with board := outcome.board, held := service.held ++ new }
          exact ⟨new, enqueue_held picked outcome.events,
            enqueue_with_held picked new outcome.events⟩
  | settle index completion => exact absurd rfl (hmove index completion)
  | stopQueue => exact ⟨[], (List.append_nil _).symm, rfl⟩
  | close =>
      obtain ⟨pool, board, queue, accepting, held, actions⟩ := service
      cases pool <;> exact ⟨[], (List.append_nil held).symm, rfl⟩

/-- Whether a desk shows a run: the picks that the run holds are the outstanding ones, in whatever
order, and otherwise the service is the same. -/
structure Desk.Shows (desk : Desk) (run : Run) : Prop where
  service : desk.service = { run.service with held := [] }
  held : run.service.held.Perm desk.outstanding

namespace Desk.Shows

variable {desk rest : Desk} {run : Run}

theorem serve (hshows : desk.Shows run) {move : Move}
    (hmove : ∀ index completion, move ≠ .settle index completion) :
    (desk.serve move).Shows (run.next move) := by
  obtain ⟨new, hheld, hstep⟩ := run.service.step_with_held hmove
  rw [← hshows.service] at hstep
  have hperm := desk.outstanding_step (.serve move)
  simp only [settled, opened, hstep, List.append_nil] at hperm
  constructor
  · rw [Desk.serve, hstep]
    rfl
  · rw [Run.service, hheld]
    exact (hshows.held.append_right new).trans hperm.symm

/-- A callback, called or missing, makes of a desk at most the desk of one more move. -/
theorem settle (hshows : desk.Shows run) (callback : Option Pick) (completion : Completion)
    (hservice : rest.service = desk.service)
    (hperm : desk.outstanding.Perm (callback.toList ++ rest.outstanding)) :
    ∃ later, (later = run ∨ ∃ move, later = run.next move) ∧
      (rest.settle (callBack callback completion desk.service.board)).Shows later := by
  cases callback with
  | none =>
      refine ⟨run, .inl rfl, ?_⟩
      rw [callBack, ← hservice, settle_nothing]
      exact ⟨hservice.trans hshows.service, hshows.held.trans hperm⟩
  | some pick =>
      have hheld : run.service.held.Perm (pick :: rest.outstanding) := hshows.held.trans hperm
      -- The run may hold the pick at another position, and settles it there.
      obtain ⟨index, hindex⟩ := List.mem_iff_getElem?.mp (hheld.mem_iff.mpr List.mem_cons_self)
      have hsettled : (run.next (.settle index completion)).service =
          { run.service with
            board := pick.release run.service.board
            held := run.service.held.eraseIdx index }.enqueue (pick.events completion) := by
        rw [Run.service, Service.step, Service.settle_of_held hindex]
      refine ⟨run.next (.settle index completion), .inr ⟨_, rfl⟩, ?_, ?_⟩
      · rw [hsettled, ← Service.enqueue_with_held, Desk.settle, hservice, hshows.service]
        rfl
      · rw [hsettled, Service.enqueue_held, outstanding_settle]
        obtain ⟨hbound, rfl⟩ := List.getElem?_eq_some_iff.mp hindex
        exact ((List.getElem_cons_eraseIdx_perm hbound).trans hheld).cons_inv

/-- A use makes of a desk that shows a run one that shows at most one more move of it. -/
theorem step (hshows : desk.Shows run) (use : Use) :
    ∃ later, (later = run ∨ ∃ move, later = run.next move) ∧ (desk.step use).Shows later := by
  cases use with
  | serve move =>
      by_cases hmove : ∀ index completion, move ≠ .settle index completion
      · exact ⟨_, .inr ⟨move, rfl⟩, hshows.serve hmove⟩
      · simp only [ne_eq, not_forall, not_not] at hmove
        obtain ⟨index, completion, rfl⟩ := hmove
        have hheld : desk.service.held = [] := by
          rw [hshows.service]
        rw [Desk.step, serve_settle hheld]
        exact ⟨run, .inl rfl, hshows⟩
  | complete index completion =>
      rw [Desk.step]
      cases hheld : desk.picks[index]? with
      | none => exact ⟨run, .inl rfl, hshows⟩
      | some held =>
          simp only [HeldPick.complete_eq]
          exact hshows.settle held.callback completion rfl (outstanding_perm_of_pick hheld)
  | takeApart index =>
      refine ⟨run, .inl rfl, ?_, ?_⟩
      · rw [Desk.step]
        cases desk.picks[index]? with
        | none => exact hshows.service
        | some held =>
            have hleft := settle_nothing { desk with
              picks := desk.picks.eraseIdx index
              callbacks := desk.callbacks ++ [held.callback] } []
            exact (congrArg Desk.service hleft).trans hshows.service
      · have hperm := desk.outstanding_step (.takeApart index)
        simp only [settled, opened, List.append_nil] at hperm
        exact hshows.held.trans hperm.symm
  | call index completion =>
      rw [Desk.step]
      cases hcallback : desk.callbacks[index]? with
      | none => exact ⟨run, .inl rfl, hshows⟩
      | some callback =>
          exact hshows.settle callback completion rfl (outstanding_perm_of_callback hcallback)
  | drop index =>
      rw [Desk.step]
      cases hheld : desk.picks[index]? with
      | none => exact ⟨run, .inl rfl, hshows⟩
      | some held =>
          simp only [settle_drop]
          exact hshows.settle held.callback .abandoned rfl (outstanding_perm_of_pick hheld)

end Desk.Shows

namespace Pick

theorem FitCounters.of_perm {left right : List Pick} (hfit : FitCounters left)
    (hperm : left.Perm right) : FitCounters right := by
  intro pick hpick
  rw [countOn, ← hperm.countP_eq]
  exact hfit pick (hperm.mem_iff.mpr hpick)

end Pick

namespace Usage

/-- Whatever callers do with their picks, the desk shows a run. -/
theorem exists_run (usage : Usage) :
    ∃ run, usage.desk.Shows run ∧ (usage.CountersFit → run.CountersFit) := by
  induction usage with
  | start config => exact ⟨.start config, ⟨rfl, .refl _⟩, fun _ => True.intro⟩
  | next usage use ih =>
      obtain ⟨run, hshows, hfit⟩ := ih
      obtain ⟨later, hlater, hnext⟩ := hshows.step use
      refine ⟨later, hnext, fun hnextFit => ?_⟩
      rcases hlater with rfl | ⟨move, rfl⟩
      · exact hfit hnextFit.1
      · exact ⟨hfit hnextFit.1, hnextFit.2.of_perm hnext.held.symm⟩

end Usage

end StickyRouting
