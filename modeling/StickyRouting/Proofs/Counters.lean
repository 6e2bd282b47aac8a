import Mathlib.Algebra.BigOperators.Group.Finset.Piecewise
import Mathlib.Data.Fintype.Card
import Mathlib.Order.Bounds.Basic
import StickyRouting.Proofs.Census

/-!
# Counters under arbitrary reports

A tally believes every transition it is told of, and a report that leaves a state nobody is counted
in takes nothing away.  Each counter is therefore known from the reports alone, whether they fit
together or not: it is the greatest surplus of entries over exits that some last stretch of the
reports has.  Where the reports come from slots that each start idle and leave the state they are
in, no exit is ever lost, and the counters count slots.
-/

namespace StickyRouting

abbrev Transition := ConnectivityState × ConnectivityState

inductive Mark where
  | leave (state : ConnectivityState)
  | enter (state : ConnectivityState)
  deriving DecidableEq

namespace Mark

variable (state : ConnectivityState)

/-- The marks of some transitions, each of which leaves one state and then enters one. -/
def ofTransitions (transitions : List Transition) : List Mark :=
  transitions.flatMap fun (before, after) => [leave before, enter after]

/-- How many more times a state is entered than left. -/
def balance (marks : List Mark) : Int :=
  (marks.count (enter state) : Int) - marks.count (leave state)

theorem balance_append (left right : List Mark) :
    balance state (left ++ right) = balance state left + balance state right := by
  simp only [balance, List.count_append]
  omega

theorem balance_leave (left : ConnectivityState) :
    balance state [leave left] = -if left = state then 1 else 0 := by
  by_cases hsame : leave left = leave state <;> simp_all [balance]

theorem balance_enter (entered : ConnectivityState) :
    balance state [enter entered] = if entered = state then 1 else 0 := by
  by_cases hsame : enter entered = enter state <;> simp_all [balance]

/-- The balances of the last stretches of some marks, none of the marks included. -/
def suffixBalances (marks : List Mark) : Set Int :=
  {value | ∃ suffix, suffix <:+ marks ∧ balance state suffix = value}

/-- One more mark moves the greatest balance by its own, but not below that of no marks. -/
theorem isGreatest_concat {marks : List Mark} {greatest : Int}
    (hgreatest : IsGreatest (suffixBalances state marks) greatest) (mark : Mark) :
    IsGreatest (suffixBalances state (marks ++ [mark]))
      (max 0 (greatest + balance state [mark])) := by
  obtain ⟨⟨best, hbest, hbalance⟩, hupper⟩ := hgreatest
  constructor
  · rcases max_choice 0 (greatest + balance state [mark]) with hmax | hmax
    · rw [hmax]
      exact ⟨[], List.nil_suffix, rfl⟩
    · rw [hmax]
      refine ⟨best ++ [mark], List.suffix_concat_iff.mpr (.inr ⟨best, rfl, hbest⟩), ?_⟩
      rw [balance_append, hbalance]
  · rintro value ⟨suffix, hsuffix, rfl⟩
    -- A last stretch of the longer list is empty or ends in the new mark.
    rcases List.suffix_concat_iff.mp hsuffix with rfl | ⟨stretch, rfl, hstretch⟩
    · exact le_max_left 0 _
    · have hle := hupper ⟨stretch, hstretch, rfl⟩
      rw [balance_append]
      exact le_max_of_le_right (by omega)

end Mark

namespace Tally

variable {state : ConnectivityState}

/-- What a tally becomes by one half of a transition. -/
def apply (tally : Tally) : Mark → Tally
  | .leave state => tally.leave state
  | .enter state => tally.enter state

def after (tally : Tally) (transitions : List Transition) : Tally :=
  (tally.recordAll transitions).getLastD tally

theorem after_cons (tally : Tally) (transition : Transition) (transitions : List Transition) :
    tally.after (transition :: transitions) =
      (tally.record transition.1 transition.2).after transitions := by
  rw [after, recordAll, List.getLastD_cons, after]

theorem after_eq_foldl (tally : Tally) (transitions : List Transition) :
    tally.after transitions = (Mark.ofTransitions transitions).foldl apply tally := by
  induction transitions generalizing tally with
  | nil => rfl
  | cons transition transitions ih =>
      rw [after_cons, ih]
      rfl

theorem count_apply (tally : Tally) (mark : Mark) (hstate : state.IsCounted) :
    ((tally.apply mark).count state : Int) =
      max 0 (tally.count state + Mark.balance state [mark]) := by
  cases mark with
  | leave left =>
      rw [apply, tally.count_leave left hstate, Mark.balance_leave]
      split <;> omega
  | enter entered =>
      rw [apply, tally.count_enter entered hstate, Mark.balance_enter]
      split <;> omega

/-- A counter is the greatest balance of a last stretch of what it has been told. -/
theorem isGreatest_foldl_apply (hstate : state.IsCounted) (marks : List Mark) :
    IsGreatest (Mark.suffixBalances state marks) ((marks.foldl apply {}).count state) := by
  induction marks using List.reverseRecOn with
  | nil =>
      have hzero : (({} : Tally).count state : Int) = 0 := by
        cases state <;> rfl
      rw [List.foldl_nil, hzero]
      constructor
      · exact ⟨[], List.nil_suffix, rfl⟩
      · rintro value ⟨suffix, hsuffix, rfl⟩
        rw [List.suffix_nil.mp hsuffix]
        rfl
  | append_singleton marks mark ih =>
      rw [List.foldl_append, List.foldl_cons, List.foldl_nil, count_apply _ _ hstate]
      exact Mark.isGreatest_concat state ih mark

theorem count_after_le (tally : Tally) (transitions : List Transition)
    (hstate : state.IsCounted) :
    (tally.after transitions).count state ≤ tally.count state + transitions.length := by
  induction transitions generalizing tally with
  | nil => exact Nat.le_refl _
  | cons transition transitions ih =>
      have hrest := ih (tally.record transition.1 transition.2)
      have hrecord : (tally.record transition.1 transition.2).count state ≤
          tally.count state + 1 := by
        rw [record, count_enter _ _ hstate, count_leave _ _ hstate]
        split <;> split <;> omega
      rw [after_cons, List.length_cons]
      omega

end Tally

/-! ## Reports of slots -/

section Slots

variable {Slot : Type*} [Fintype Slot] [DecidableEq Slot]

def slotsIn (states : Slot → ConnectivityState) (state : ConnectivityState) : Nat :=
  (Finset.univ.filter fun slot => states slot = state).card

/-- Whether the counters of a tally count slots. -/
def Tally.Counts (tally : Tally) (states : Slot → ConnectivityState) : Prop :=
  ∀ state : ConnectivityState, state.IsCounted → tally.count state = slotsIn states state

omit [DecidableEq Slot] in
theorem slotsIn_pos {states : Slot → ConnectivityState} {state : ConnectivityState} :
    0 < slotsIn states state ↔ ∃ slot, states slot = state := by
  simp [slotsIn, Finset.card_pos, Finset.Nonempty]

theorem slotsIn_change {before after : Slot → ConnectivityState} {changed : Slot}
    (hother : ∀ slot ≠ changed, after slot = before slot) (state : ConnectivityState) :
    slotsIn after state + (if before changed = state then 1 else 0) =
      slotsIn before state + if after changed = state then 1 else 0 := by
  simp only [slotsIn, Finset.card_filter]
  rw [← Finset.add_sum_erase _ _ (Finset.mem_univ changed),
    ← Finset.add_sum_erase Finset.univ (fun slot => if before slot = state then 1 else 0)
      (Finset.mem_univ changed)]
  have hrest : ∑ slot ∈ Finset.univ.erase changed, (if after slot = state then 1 else 0) =
      ∑ slot ∈ Finset.univ.erase changed, if before slot = state then 1 else 0 := by
    apply Finset.sum_congr rfl
    intro slot hslot
    rw [hother slot (Finset.ne_of_mem_erase hslot)]
  omega

/-- The states that a slot enters in a list of changes of slots, the oldest first. -/
def historyOf (changes : List (Slot × ConnectivityState)) (slot : Slot) :
    List ConnectivityState :=
  (changes.filter fun change => change.1 = slot).map Prod.snd

/-- Whether a list of changes consists of the given histories, each in its order. -/
def Interleaves (changes : List (Slot × ConnectivityState))
    (histories : Slot → List ConnectivityState) : Prop :=
  ∀ slot, historyOf changes slot = histories slot

def stateAfter (history : List ConnectivityState) : ConnectivityState :=
  history.getLastD .idle

/-- The transitions that slots make by changes that follow earlier ones. -/
def transitionsFrom (earlier : List (Slot × ConnectivityState)) :
    List (Slot × ConnectivityState) → List Transition
  | [] => []
  | change :: changes =>
      (stateAfter (historyOf earlier change.1), change.2) ::
        transitionsFrom (earlier ++ [change]) changes

/-- The transitions of slots that all start idle. -/
def transitionsOf (changes : List (Slot × ConnectivityState)) : List Transition :=
  transitionsFrom [] changes

omit [Fintype Slot] in
theorem stateAfter_concat (changes : List (Slot × ConnectivityState))
    (change : Slot × ConnectivityState) (slot : Slot) :
    stateAfter (historyOf (changes ++ [change]) slot) =
      if change.1 = slot then change.2 else stateAfter (historyOf changes slot) := by
  rw [historyOf, List.filter_append, List.map_append, List.filter_singleton]
  by_cases hslot : change.1 = slot
  · simp [hslot, stateAfter]
  · simp [hslot, historyOf]

namespace Tally.Counts

variable {tally : Tally} {before after : Slot → ConnectivityState}

/-- A tally that counts slots is never told of an exit it has no slot for. -/
theorem record (hcounts : tally.Counts before) {changed : Slot}
    (hother : ∀ slot ≠ changed, after slot = before slot) :
    (tally.record (before changed) (after changed)).Counts after := by
  intro state hstate
  have hleft : before changed = state → 0 < tally.count state := by
    intro hbefore
    rw [hcounts state hstate]
    exact slotsIn_pos.mpr ⟨changed, hbefore⟩
  have hrecord := tally.count_record (before changed) (after changed) hstate hleft
  have hslots := slotsIn_change hother state
  rw [hcounts state hstate] at hrecord
  omega

theorem run {earlier : List (Slot × ConnectivityState)}
    (hcounts : tally.Counts fun slot => stateAfter (historyOf earlier slot))
    (changes : List (Slot × ConnectivityState)) :
    (tally.after (transitionsFrom earlier changes)).Counts fun slot =>
      stateAfter (historyOf (earlier ++ changes) slot) := by
  induction changes generalizing tally earlier with
  | nil =>
      rw [List.append_nil]
      exact hcounts
  | cons change changes ih =>
      have hother : ∀ slot ≠ change.1,
          stateAfter (historyOf (earlier ++ [change]) slot) =
            stateAfter (historyOf earlier slot) := by
        intro slot hslot
        rw [stateAfter_concat, if_neg (Ne.symm hslot)]
      -- The change joins the earlier ones, in which the state of its slot is found from now on.
      have hrecorded := hcounts.record hother
      rw [stateAfter_concat, if_pos rfl] at hrecorded
      have hrest := ih hrecorded
      rw [List.append_assoc] at hrest
      rw [transitionsFrom, after_cons]
      exact hrest

theorem start : ({} : Tally).Counts fun slot : Slot => stateAfter (historyOf [] slot) := by
  intro state hstate
  cases state <;> simp_all [ConnectivityState.IsCounted, count, slotsIn, stateAfter, historyOf]

omit [DecidableEq Slot] in
theorem aggregate (hcounts : tally.Counts before) :
    tally.aggregate =
      if ∃ slot, before slot = .ready then .ready
      else if ∃ slot, before slot = .connecting then .connecting
      else .transientFailure := by
  have hready : 0 < tally.ready ↔ ∃ slot, before slot = .ready := by
    rw [← slotsIn_pos, ← hcounts .ready True.intro]
    rfl
  have hconnecting : 0 < tally.connecting ↔ ∃ slot, before slot = .connecting := by
    rw [← slotsIn_pos, ← hcounts .connecting True.intro]
    rfl
  simp only [Tally.aggregate, hready, hconnecting]

end Tally.Counts

/-- Each counter is the greatest number by which entries into its state outweigh exits from it in a
last stretch of the reports, whatever the reports are, and at most the number of reports.  If the
reports come from slots that start idle, each counter is the number of slots in its state, however
their histories are interleaved, and the state of the channel is that of the best slot. -/
theorem counters_exact (transitions : List Transition)
    {histories : Slot → List ConnectivityState} {changes : List (Slot × ConnectivityState)}
    (hinterleaved : Interleaves changes histories) :
    (∀ state : ConnectivityState, state.IsCounted →
        IsGreatest (Mark.suffixBalances state (Mark.ofTransitions transitions))
            ((({} : Tally).after transitions).count state) ∧
          (({} : Tally).after transitions).count state ≤ transitions.length) ∧
      (∀ state : ConnectivityState, state.IsCounted →
        (({} : Tally).after (transitionsOf changes)).count state =
          (Finset.univ.filter fun slot => stateAfter (histories slot) = state).card) ∧
      (({} : Tally).after (transitionsOf changes)).aggregate =
        if ∃ slot, stateAfter (histories slot) = .ready then .ready
        else if ∃ slot, stateAfter (histories slot) = .connecting then .connecting
        else .transientFailure := by
  have hhistories : historyOf changes = histories := funext hinterleaved
  have hstart : ({} : Tally).Counts fun slot : Slot => stateAfter (historyOf [] slot) :=
    Tally.Counts.start
  have hcounts := hstart.run changes
  rw [List.nil_append, hhistories] at hcounts
  refine ⟨fun state hstate => ⟨?_, ?_⟩, hcounts, hcounts.aggregate⟩
  · rw [Tally.after_eq_foldl]
    exact Tally.isGreatest_foldl_apply hstate _
  · have hle := ({} : Tally).count_after_le transitions hstate
    have hzero : ({} : Tally).count state = 0 := by
      cases state <;> rfl
    omega

/-- Reports that leave a state more often than they enter it end with one entry that counts, and a
slot that comes back from its shutdown counts once. -/
theorem counters_exact_reentered :
    let reports : List Transition :=
      [(.ready, .ready), (.ready, .connecting), (.ready, .idle), (.idle, .ready)]
    let histories : Fin 2 → List ConnectivityState := fun slot =>
      if slot = 0 then [.ready, .shutdown, .ready] else [.connecting]
    let changes : List (Fin 2 × ConnectivityState) :=
      [(0, .ready), (1, .connecting), (0, .shutdown), (0, .ready)]
    Interleaves changes histories ∧
      Mark.balance .ready (Mark.ofTransitions reports) = -1 ∧
      IsGreatest (Mark.suffixBalances .ready (Mark.ofTransitions reports)) 1 ∧
      (({} : Tally).after (transitionsOf changes)).count .ready = 1 ∧
      (({} : Tally).after (transitionsOf changes)).aggregate = .ready := by
  intro reports histories changes
  have hinterleaved : Interleaves changes histories := by
    unfold Interleaves
    decide
  obtain ⟨hreports, hslots, hstate⟩ := counters_exact reports hinterleaved
  refine ⟨hinterleaved, by decide, (hreports .ready True.intro).1, ?_, ?_⟩
  · rw [hslots .ready True.intro]
    decide
  · rw [hstate, if_pos ⟨0, rfl⟩]

end Slots

end StickyRouting
