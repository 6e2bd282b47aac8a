import Std.Data.ExtTreeMap

/-!
# Connection identifiers

The channel that a balancer serves tags every connection it creates with a positive 64-bit
number. Identifiers are ordered by that number, which is the order in which connections are
listed everywhere. A source hands out numbers one after the other and skips zero when it wraps
round.
-/

namespace StickyRouting

structure ConnectionId where
  value : UInt64
  value_ne_zero : value ≠ 0
  deriving DecidableEq

namespace ConnectionId

def ofValue? (value : UInt64) : Option ConnectionId :=
  if positive : value ≠ 0 then some ⟨value, positive⟩ else none

def first : ConnectionId := ⟨1, by decide⟩

instance : Inhabited ConnectionId := ⟨first⟩

def display (id : ConnectionId) : String :=
  "conn-" ++ toString id.value.toNat

/-- The form an identifier takes inside the description of a larger value. -/
def describe (id : ConnectionId) : String :=
  "ConnectionId(" ++ toString id.value.toNat ++ ")"

instance : Ord ConnectionId where
  compare left right := compare left.value right.value

theorem compare_eq (left right : ConnectionId) :
    compare left right = compare left.value right.value := rfl

instance : Std.TransOrd ConnectionId where
  eq_swap := by
    intro left right
    simp only [compare_eq]
    exact Std.OrientedCmp.eq_swap
  isLE_trans := by
    intro left middle right hleft hright
    simp only [compare_eq] at hleft hright ⊢
    exact Std.TransCmp.isLE_trans hleft hright

instance : Std.LawfulEqOrd ConnectionId where
  eq_of_compare := by
    intro left right heq
    rw [compare_eq] at heq
    have hvalue : left.value = right.value := Std.LawfulEqCmp.eq_of_compare heq
    cases left with
    | mk leftValue hleft =>
        cases right with
        | mk rightValue hright =>
            simp only at hvalue
            subst hvalue
            rfl
  compare_self := by
    intro id
    rw [compare_eq]
    exact Std.ReflCmp.compare_self

def sorted (ids : List ConnectionId) : List ConnectionId :=
  (Std.ExtTreeMap.ofList (ids.map fun id => (id, ())) compare).keys

/-- A counter that hands out identifiers. -/
structure Source where
  next : UInt64 := 1
  deriving DecidableEq

/-- The next identifier and the source after it. Zero is no identifier, so the turn on which
the counter stands at zero yields the smallest one instead. -/
def Source.take (source : Source) : ConnectionId × Source :=
  ((ofValue? source.next).getD first, { next := source.next + 1 })

/-- The next `count` identifiers in the order in which they are handed out. -/
def Source.takeMany (source : Source) : Nat → List ConnectionId
  | 0 => []
  | count + 1 => source.take.1 :: source.take.2.takeMany count

end ConnectionId

end StickyRouting
