import Mathlib.Data.List.Infix
import Mathlib.Data.List.Perm.Subperm
import StickyRouting.Proofs.Bindings
import StickyRouting.Proofs.BindingCounts

/-!
# Paired binds and unbinds

A connection has one count for all of its keys, and gives all of them up together.  That is safe
for callers who pair each bind of a key with one unbind of it.  As long as no key of a connection
is unbound more often than it was bound there, the count can only reach zero when every single
key is balanced, so that no key with an open bind is ever released, whatever the callers of the
other keys do.
-/

namespace StickyRouting

namespace Credit

variable {history : List Credit} {key : String}

def boundKey? : Credit → Option String
  | bind key => some key
  | unbind _ => none

def unboundKey? : Credit → Option String
  | bind _ => none
  | unbind key => some key

/-- The keys that were bound, once for each bind. -/
def boundKeys (history : List Credit) : List String :=
  history.filterMap boundKey?

def unboundKeys (history : List Credit) : List String :=
  history.filterMap unboundKey?

theorem length_boundKeys : (boundKeys history).length = binds history := by
  rw [boundKeys, List.length_filterMap_eq_countP, binds]
  congr 1
  funext credit
  cases credit <;> rfl

theorem length_unboundKeys : (unboundKeys history).length = unbinds history := by
  rw [unboundKeys, List.length_filterMap_eq_countP, unbinds]
  congr 1
  funext credit
  cases credit <;> rfl

theorem count_boundKeys : (boundKeys history).count key = history.count (.bind key) := by
  rw [boundKeys, List.count, List.countP_filterMap, List.count]
  congr 1
  funext credit
  cases credit <;> simp [boundKey?]

theorem count_unboundKeys : (unboundKeys history).count key = history.count (.unbind key) := by
  rw [unboundKeys, List.count, List.countP_filterMap, List.count]
  congr 1
  funext credit
  cases credit <;> simp [unboundKey?]

/-- Whether no key was ever unbound more often than it had been bound. -/
def Paired (history : List Credit) : Prop :=
  ∀ (key : String) (past : List Credit), past <:+ history →
    past.count (.unbind key) ≤ past.count (.bind key)

theorem paired_iff_tails :
    Paired history ↔
      ∀ past ∈ history.tails, ∀ key ∈ unboundKeys past,
        past.count (.unbind key) ≤ past.count (.bind key) := by
  simp only [List.mem_tails]
  constructor
  · exact fun hpaired past hpast key _ => hpaired key past hpast
  · intro hpaired key past hpast
    by_cases hkey : key ∈ unboundKeys past
    · exact hpaired past hpast key hkey
    · rw [← count_unboundKeys, List.count_eq_zero_of_not_mem hkey]
      exact Nat.zero_le _

instance : DecidablePred Paired := fun _ =>
  decidable_of_iff' _ paired_iff_tails

theorem Paired.of_suffix (hpaired : Paired history) {past : List Credit}
    (hpast : past <:+ history) : Paired past :=
  fun key older holder => hpaired key older (holder.trans hpast)

/-- The balances of the keys are not negative and add up to the difference of binds and unbinds.
If that difference is zero, so is every balance. -/
theorem Paired.count_eq (hpaired : Paired history) (hbalanced : binds history = unbinds history)
    (key : String) : history.count (.unbind key) = history.count (.bind key) := by
  have hsub : (unboundKeys history).Subperm (boundKeys history) := by
    rw [List.subperm_ext_iff]
    intro other _
    rw [count_unboundKeys, count_boundKeys]
    exact hpaired other history List.suffix_rfl
  have hlength : (boundKeys history).length ≤ (unboundKeys history).length := by
    rw [length_boundKeys, length_unboundKeys]
    exact Nat.le_of_eq hbalanced
  calc
    history.count (.unbind key) = (unboundKeys history).count key := count_unboundKeys.symm
    _ = (boundKeys history).count key := (hsub.perm_of_length_le hlength).count_eq key
    _ = history.count (.bind key) := count_boundKeys

theorem balanced_of_count_eq
    (hcounts : ∀ key : String, history.count (.bind key) = history.count (.unbind key)) :
    binds history = unbinds history := by
  have hperm : (boundKeys history).Perm (unboundKeys history) := by
    rw [List.perm_iff_count]
    intro key
    rw [count_boundKeys, count_unboundKeys, hcounts]
  rw [← length_boundKeys, ← length_unboundKeys, hperm.length_eq]

/-- What came before the credits since zero was balanced. -/
theorem exists_balanced_append (history : List Credit) :
    ∃ past, sinceZero history ++ past = history ∧ binds past = unbinds past := by
  induction history with
  | nil => exact ⟨[], rfl, rfl⟩
  | cons credit older ih =>
      by_cases hbalanced : binds (credit :: older) = unbinds (credit :: older)
      · refine ⟨credit :: older, ?_, hbalanced⟩
        rw [sinceZero_of_balanced hbalanced, List.nil_append]
      · obtain ⟨past, happend, hpast⟩ := ih
        refine ⟨past, ?_, hpast⟩
        rw [sinceZero_cons hbalanced, List.cons_append, happend]

/-- A key with an open bind has been bound since zero, because at zero it had none. -/
theorem Paired.bind_mem_sinceZero (hpaired : Paired history)
    (hopen : history.count (.unbind key) < history.count (.bind key)) :
    .bind key ∈ sinceZero history := by
  obtain ⟨past, happend, hpast⟩ := exists_balanced_append history
  have hsuffix : past <:+ history := ⟨sinceZero history, happend⟩
  have hclosed := (hpaired.of_suffix hsuffix).count_eq hpast key
  rw [← List.count_pos_iff]
  rw [← happend, List.count_append, List.count_append] at hopen
  omega

end Credit

namespace Run

/-- As long as no key of a connection is unbound more often than it was bound there, a key with
more binds than unbinds is bound to that connection, in the table and for the pickers, whatever
happened to the other keys.  When binds and unbinds agree for every key, no key is left. -/
theorem paired_kept (run : Run) (hfresh : run.Follows Job.Fresh) (hroom : run.Follows Job.HasRoom)
    {pool : Pool} (hopen : run.service.pool = some pool) {id : ConnectionId}
    (hid : id ∈ pool.connections) (hpaired : Credit.Paired (run.history id)) :
    (∀ key : String,
        (run.history id).count (.unbind key) < (run.history id).count (.bind key) →
          pool.affinity[key]? = some id ∧ run.service.board.bindings[key]? = some id) ∧
      ((∀ key : String,
          (run.history id).count (.bind key) = (run.history id).count (.unbind key)) →
        ∀ key : String,
          pool.affinity[key]? ≠ some id ∧ run.service.board.bindings[key]? ≠ some id) := by
  obtain ⟨connection, htracked⟩ := WorkingSet.mem_iff.mp hid
  have haccount := run.accounted hfresh hroom hopen id connection htracked
  have hkeys : ∀ key : String, pool.affinity[key]? = some id ↔
      .bind key ∈ Credit.sinceZero (run.history id) := haccount.keys
  rw [run.bindings_eq hopen]
  simp only [and_self, ne_eq, hkeys]
  refine ⟨fun key => hpaired.bind_mem_sinceZero, fun hcounts key => ?_⟩
  rw [Credit.sinceZero_of_balanced (Credit.balanced_of_count_eq hcounts)]
  exact List.not_mem_nil

/-- A key stays bound although the other key of its connection is unbound as often as it was
bound, and both are gone with the last unbind. -/
theorem paired_kept_shared :
    let moves := [.grant 0 .first, .handle (.bind "one" .first), .handle (.bind "two" .first),
      .handle (.bind "one" .first), .handle (.unbind "one"), .handle (.unbind "one")]
    let run := ofMoves {} moves
    let closed := run.next (.handle (.unbind "two"))
    (∃ pool, run.service.pool = some pool ∧ .first ∈ pool.connections ∧
        run.Follows Job.Fresh ∧ run.Follows Job.HasRoom ∧ Credit.Paired (run.history .first) ∧
          pool.affinity["two"]? = some .first) ∧
      ∃ pool, closed.service.pool = some pool ∧ .first ∈ pool.connections ∧
        closed.Follows Job.Fresh ∧ closed.Follows Job.HasRoom ∧
          Credit.Paired (closed.history .first) ∧
            ∀ key : String, pool.affinity[key]? ≠ some .first := by
  intro moves run closed
  obtain ⟨pool, hopen⟩ : ∃ pool, run.service.pool = some pool := ⟨_, rfl⟩
  obtain ⟨last, hlast⟩ : ∃ pool, closed.service.pool = some pool := ⟨_, rfl⟩
  have hfresh : closed.Follows Job.Fresh := by decide
  have hroom : closed.Follows Job.HasRoom := by decide
  have hhistory : closed.history .first =
      [.unbind "two", .unbind "one", .unbind "one", .bind "one", .bind "two", .bind "one"] := by
    decide
  have hpaired : Credit.Paired (closed.history .first) := by
    rw [hhistory]
    decide
  have hearlier : Credit.Paired (run.history .first) := by decide
  have hid : .first ∈ pool.connections := by
    cases hopen
    decide
  have hlastId : .first ∈ last.connections := by
    cases hlast
    decide
  obtain ⟨hkept, _⟩ := run.paired_kept hfresh.1 hroom.1 hopen hid hearlier
  obtain ⟨_, hgone⟩ := closed.paired_kept hfresh hroom hlast hlastId hpaired
  refine ⟨⟨pool, hopen, hid, hfresh.1, hroom.1, hearlier, (hkept "two" (by decide)).1⟩,
    last, hlast, hlastId, hfresh, hroom, hpaired, fun key => (hgone ?_ key).1⟩
  intro other
  rw [hhistory]
  by_cases hone : "one" = other
  · subst hone
    decide
  · by_cases htwo : "two" = other
    · subst htwo
      decide
    · simp [hone, htwo]

end Run

end StickyRouting
