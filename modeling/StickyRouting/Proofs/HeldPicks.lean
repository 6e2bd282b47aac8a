import StickyRouting.Picker.HeldPick
import StickyRouting.Proofs.Streams

/-!
# Picks in the hands of callers

A run settles a held pick in one move.  Here callers hold their picks as they get them, and may
complete a pick, take it apart and call its callback at some later time, or drop it; a pick that is
taken apart leaves something behind that is dropped as well.  Each of these ways settles a pick
once, so that the outstanding picks are those that were made and not settled.
-/

namespace StickyRouting

/-- A service and what its callers hold. -/
structure Desk where
  service : Service
  /-- The picks that callers hold with their callbacks in place. -/
  picks : List HeldPick := []
  /-- The callbacks that callers have taken out of picks and not called.  One that is thrown away
  is one that is never called. -/
  callbacks : List (Option Pick) := []

inductive Use where
  /-- Something happens to the service.  A caller who picks holds the new pick. -/
  | serve (move : Move)
  | complete (pick : Nat) (completion : Completion)
  | takeApart (pick : Nat)
  | call (callback : Nat) (completion : Completion)
  | drop (pick : Nat)

namespace Desk

/-- The picks that have not been settled. -/
def outstanding (desk : Desk) : List Pick :=
  desk.picks.filterMap HeldPick.callback ++ desk.callbacks.filterMap id

/-- Lets a settlement take effect. -/
def settle (desk : Desk) (settlement : Settlement) : Desk :=
  { desk with
    service :=
      { desk.service with board := settlement.board }.enqueue settlement.events }

/-- Lets a move of the service take effect.  The service itself holds no picks. -/
def serve (desk : Desk) (move : Move) : Desk :=
  let served := desk.service.step move
  { desk with
    service := { served with held := [] }
    picks := desk.picks ++ served.held.map .ofPick }

/-- The desk after a use.  A use of something that is not there changes nothing. -/
def step (desk : Desk) : Use → Desk
  | .serve move => desk.serve move
  | .complete index completion =>
      match desk.picks[index]? with
      | none => desk
      | some held =>
          { desk with picks := desk.picks.eraseIdx index }.settle
            (held.complete completion desk.service.board)
  | .takeApart index =>
      match desk.picks[index]? with
      | none => desk
      | some held =>
          let (_, callback, settlement) := held.takeApart desk.service.board
          { desk with
            picks := desk.picks.eraseIdx index
            callbacks := desk.callbacks ++ [callback] }.settle settlement
  | .call index completion =>
      match desk.callbacks[index]? with
      | none => desk
      | some callback =>
          { desk with callbacks := desk.callbacks.eraseIdx index }.settle
            (callBack callback completion desk.service.board)
  | .drop index =>
      match desk.picks[index]? with
      | none => desk
      | some held =>
          { desk with picks := desk.picks.eraseIdx index }.settle
            (held.drop desk.service.board)

def opened (desk : Desk) : Use → List Pick
  | .serve move => (desk.service.step move).held
  | .complete _ _ | .takeApart _ | .call _ _ | .drop _ => []

/-- The picks that a use settles: by a completion, by a callback that was taken out, or by being
dropped. -/
def settled (desk : Desk) : Use → List Pick
  | .complete index _ | .drop index => ((desk.picks[index]?).bind HeldPick.callback).toList
  | .call index _ => ((desk.callbacks[index]?).bind id).toList
  | .serve _ | .takeApart _ => []

end Desk

/-- The uses made since a desk was opened, the latest outermost. -/
inductive Usage where
  | start (config : Config)
  | next (usage : Usage) (use : Use)

namespace Usage

def desk : Usage → Desk
  | start config => { service := .start config }
  | next usage use => usage.desk.step use

def ofUses (config : Config) (uses : List Use) : Usage :=
  uses.foldl next (start config)

/-- Whether at no time more picks on one connection were outstanding than its counter of streams
can count. -/
def CountersFit : Usage → Prop
  | start _ => True
  | next usage use => usage.CountersFit ∧ Pick.FitCounters (usage.desk.step use).outstanding

instance decidableCountersFit : (usage : Usage) → Decidable usage.CountersFit
  | .start _ => .isTrue True.intro
  | .next usage use =>
      have := decidableCountersFit usage
      inferInstanceAs
        (Decidable (usage.CountersFit ∧ Pick.FitCounters (usage.desk.step use).outstanding))

end Usage

namespace HeldPick

/-- What is left of a held pick without its callback settles nothing. -/
theorem drop_emptied (held : HeldPick) (board : Board) : held.emptied.drop board = { board } :=
  rfl

theorem complete_eq (held : HeldPick) (completion : Completion) (board : Board) :
    held.complete completion board = callBack held.callback completion board := by
  rw [complete]
  cases held.callback with
  | none => rfl
  | some pick =>
      simp only [Settlement.andThen, drop_emptied, callBack, List.append_nil]

end HeldPick

namespace Desk

variable {desk : Desk}

theorem settle_nothing (desk : Desk) (notices : List Notice) :
    desk.settle { board := desk.service.board, notices } = desk := by
  simp only [settle, Service.enqueue, List.append_nil, ite_self]

theorem settle_drop (desk : Desk) (held : HeldPick) (board : Board) :
    desk.settle (held.drop board) = desk.settle (callBack held.callback .abandoned board) :=
  rfl

/-- A service that holds no picks has none to settle. -/
theorem serve_settle (hheld : desk.service.held = []) (index : Nat) (completion : Completion) :
    desk.serve (.settle index completion) = desk := by
  have hsame : desk.service.step (.settle index completion) = desk.service := by
    rw [Service.step, Service.settle_of_not_held]
    rw [hheld]
    rfl
  have hempty : { desk.service with held := [] } = desk.service := by rw [← hheld]
  simp only [serve, hsame, hempty, hheld, List.map_nil, List.append_nil]

theorem outstanding_settle (desk : Desk) (settlement : Settlement) :
    (desk.settle settlement).outstanding = desk.outstanding := rfl

/-- What a position of a list contributes may as well come first. -/
theorem filterMap_perm_eraseIdx {α β : Type} (observe : α → Option β) {list : List α}
    {index : Nat} {item : α} (hitem : list[index]? = some item) :
    (list.filterMap observe).Perm
      ((observe item).toList ++ (list.eraseIdx index).filterMap observe) := by
  obtain ⟨hindex, rfl⟩ := List.getElem?_eq_some_iff.mp hitem
  have hperm := (List.getElem_cons_eraseIdx_perm hindex).symm.filterMap observe
  rw [List.filterMap_cons] at hperm
  cases hobserve : observe list[index] with
  | none => simpa [hobserve] using hperm
  | some observed => simpa [hobserve] using hperm

theorem outstanding_perm_of_pick {index : Nat} {held : HeldPick}
    (hheld : desk.picks[index]? = some held) :
    desk.outstanding.Perm
      (held.callback.toList ++
        { desk with picks := desk.picks.eraseIdx index }.outstanding) := by
  rw [outstanding, outstanding, ← List.append_assoc]
  exact (filterMap_perm_eraseIdx HeldPick.callback hheld).append_right _

theorem outstanding_perm_of_callback {index : Nat} {callback : Option Pick}
    (hcallback : desk.callbacks[index]? = some callback) :
    desk.outstanding.Perm
      (callback.toList ++
        { desk with callbacks := desk.callbacks.eraseIdx index }.outstanding) := by
  have hrest := filterMap_perm_eraseIdx id hcallback
  calc
    desk.outstanding.Perm (desk.picks.filterMap HeldPick.callback ++
        (callback.toList ++ (desk.callbacks.eraseIdx index).filterMap id)) :=
      hrest.append_left _
    _ = (desk.picks.filterMap HeldPick.callback ++ callback.toList) ++
        (desk.callbacks.eraseIdx index).filterMap id := (List.append_assoc _ _ _).symm
    List.Perm _ ((callback.toList ++ desk.picks.filterMap HeldPick.callback) ++
        (desk.callbacks.eraseIdx index).filterMap id) :=
      List.perm_append_comm.append_right _
    _ = _ := List.append_assoc _ _ _

/-- A use adds the picks that it makes to the outstanding ones, and takes away those that it
settles. -/
theorem outstanding_step (desk : Desk) (use : Use) :
    ((desk.step use).outstanding ++ desk.settled use).Perm
      (desk.outstanding ++ desk.opened use) := by
  cases use with
  | serve move =>
      have hnew : ((desk.service.step move).held.map HeldPick.ofPick).filterMap
          HeldPick.callback = (desk.service.step move).held := by
        rw [List.filterMap_map]
        exact List.filterMap_some
      simp only [step, serve, outstanding, settled, opened, List.filterMap_append, hnew,
        List.append_nil, List.append_assoc]
      exact List.perm_append_comm.append_left _
  | complete index completion =>
      simp only [step, settled, opened, List.append_nil]
      cases hheld : desk.picks[index]? with
      | none => simp
      | some held => exact List.perm_append_comm.trans (outstanding_perm_of_pick hheld).symm
  | takeApart index =>
      simp only [step, settled, opened, List.append_nil]
      cases hheld : desk.picks[index]? with
      | none => exact .refl _
      | some held =>
          have hmoved : (desk.callbacks ++ [held.callback]).filterMap id =
              desk.callbacks.filterMap id ++ held.callback.toList := by
            rw [List.filterMap_append]
            cases held.callback <;> rfl
          let rest := (desk.picks.eraseIdx index).filterMap HeldPick.callback
          calc
            rest ++ (desk.callbacks ++ [held.callback]).filterMap id =
                (rest ++ desk.callbacks.filterMap id) ++ held.callback.toList := by
              rw [hmoved, List.append_assoc]
            List.Perm _ (held.callback.toList ++ (rest ++ desk.callbacks.filterMap id)) :=
              List.perm_append_comm
            List.Perm _ desk.outstanding := (outstanding_perm_of_pick hheld).symm
  | call index completion =>
      simp only [step, settled, opened, List.append_nil]
      cases hcallback : desk.callbacks[index]? with
      | none => simp
      | some callback =>
          exact List.perm_append_comm.trans (outstanding_perm_of_callback hcallback).symm
  | drop index =>
      simp only [step, settled, opened, List.append_nil]
      cases hheld : desk.picks[index]? with
      | none => simp
      | some held => exact List.perm_append_comm.trans (outstanding_perm_of_pick hheld).symm

end Desk

end StickyRouting
