import Mathlib.Data.List.Basic
import StickyRouting.Proofs.Acceptance

/-!
# What becomes of calls for the counters

The loop takes the front of what the queue has accepted, and nothing behind the first request to
close.  A call for the counters is therefore replied or not by its place in that order, and its
ticket tells the place.
-/

namespace StickyRouting.Exchange

variable {config : Config} {exchange : Exchange}

namespace Linear

theorem taken_leads_accepted (hlinear : Linear config exchange) :
    exchange.taken.map Prod.fst <+: exchange.accepted := by
  cases hopen : exchange.balancer.isOpen with
  | true =>
      obtain ⟨pool, hloop⟩ := running_of_open hopen
      rw [(hlinear.running hloop).1]
      exact List.prefix_append _ _
  | false =>
      obtain ⟨_, cause, hended, _⟩ := hlinear.ended hopen
      cases hended with
      | @closed before after haccepted _ htaken =>
          refine ⟨after, ?_⟩
          rw [htaken, haccepted, List.append_assoc]
          rfl
      | abandoned _ htaken _ => exact ⟨[], (List.append_nil _).trans htaken⟩

/-- The loop takes nothing that was accepted after a request to close. -/
theorem length_taken_le (hlinear : Linear config exchange) {before after : List Message}
    (haccepted : exchange.accepted = before ++ .close :: after) :
    exchange.taken.length ≤ before.length + 1 := by
  -- Messages without a request to close do not reach as far as to this one.
  have hbound {messages : List Message} (hfront : messages <+: exchange.accepted)
      (hclose : .close ∉ messages) : messages.length ≤ before.length := by
    by_contra hlong
    have hindex : before.length < messages.length := by omega
    have hsame := hfront.getElem hindex
    simp only [haccepted, List.getElem_append_right (Nat.le_refl _), Nat.sub_self,
      List.getElem_cons_zero] at hsame
    exact hclose (hsame ▸ List.getElem_mem hindex)
  cases hopen : exchange.balancer.isOpen with
  | true =>
      obtain ⟨pool, hloop⟩ := running_of_open hopen
      have hlength := hbound hlinear.taken_leads_accepted (hlinear.running hloop).2.1
      rw [List.length_map] at hlength
      omega
  | false =>
      obtain ⟨_, cause, hended, _⟩ := hlinear.ended hopen
      cases hended with
      | @closed first rest hfirst hnone htaken =>
          have hlength := hbound (hfirst ▸ List.prefix_append first _) hnone
          have htotal := congrArg List.length htaken
          rw [List.length_map, List.length_append, List.length_singleton] at htotal
          omega
      | abandoned hclose _ _ =>
          rw [haccepted] at hclose
          simp at hclose

/-- A call for the counters has a ticket of its own. -/
theorem eq_of_ticket (hlinear : Linear config exchange) {ticket : Nat}
    {before after otherBefore otherAfter : List Message}
    (haccepted : exchange.accepted = before ++ .stats ticket :: after)
    (hother : exchange.accepted = otherBefore ++ .stats ticket :: otherAfter) :
    before = otherBefore := by
  have hnodup : (exchange.accepted.filterMap Message.ticket?).Nodup := by
    rw [hlinear.tickets]
    exact List.nodup_range
  rw [haccepted, List.filterMap_append, List.filterMap_cons] at hnodup
  have hparts := List.nodup_append.mp hnodup
  have hbefore : .stats ticket ∉ before := fun hmem =>
    hparts.2.2 ticket (List.mem_filterMap.mpr ⟨_, hmem, rfl⟩) ticket List.mem_cons_self rfl
  have hafter : .stats ticket ∉ after := fun hmem =>
    (List.nodup_cons.mp hparts.2.1).1 (List.mem_filterMap.mpr ⟨_, hmem, rfl⟩)
  rw [haccepted] at hother
  exact ((List.append_cons_inj_of_notMem hbefore hafter).mp hother).1

/-- A call for the counters is replied once the loop has come to it, with the counters of the pool
that the events before it have made. -/
theorem mem_replies_iff (hlinear : Linear config exchange) {ticket : Nat}
    {before after : List Message}
    (haccepted : exchange.accepted = before ++ .stats ticket :: after) (stats : Stats) :
    (ticket, stats) ∈ exchange.replies ↔
      before.length < exchange.taken.length ∧
        stats = (served config (exchange.taken.take before.length)).pool.stats := by
  rw [hlinear.replies]
  constructor
  · rintro ⟨front, answer, rest, htaken, rfl⟩
    have hsame : before = front.map Prod.fst := by
      obtain ⟨left, hleft⟩ := hlinear.taken_leads_accepted
      have hother : exchange.accepted =
          front.map Prod.fst ++ .stats ticket :: (rest.map Prod.fst ++ left) := by
        rw [← hleft, htaken, List.map_append, List.append_assoc]
        rfl
      exact hlinear.eq_of_ticket haccepted hother
    rw [hsame, List.length_map, htaken, List.take_left]
    refine ⟨?_, rfl⟩
    rw [List.length_append, List.length_cons]
    omega
  · rintro ⟨hlength, rfl⟩
    have hlengthMap : before.length < (exchange.taken.map Prod.fst).length := by
      rwa [List.length_map]
    have hmessage := hlinear.taken_leads_accepted.getElem hlengthMap
    simp only [haccepted, List.getElem_append_right (Nat.le_refl _), Nat.sub_self,
      List.getElem_cons_zero, List.getElem_map] at hmessage
    refine ⟨_, exchange.taken[before.length].2, exchange.taken.drop (before.length + 1), ?_, rfl⟩
    rw [← hmessage]
    calc
      exchange.taken = exchange.taken.take before.length ++ exchange.taken.drop before.length :=
        (List.take_append_drop _ _).symm
      _ = _ := by rw [List.drop_eq_getElem_cons hlength]

/-- A call for the counters is answered by its place in the order of acceptance. -/
theorem statsResult?_eq (hlinear : Linear config exchange) {ticket : Nat}
    {before after : List Message}
    (haccepted : exchange.accepted = before ++ .stats ticket :: after) :
    exchange.statsResult? ticket =
      if before.length < exchange.taken.length then
        some (.ok (served config (exchange.taken.take before.length)).pool.stats)
      else if exchange.finished then some (.error .balancerClosed) else none := by
  have hreplies := hlinear.mem_replies_iff haccepted
  rw [statsResult?]
  cases hlookup : exchange.replies.lookup ticket with
  | none =>
      have hnone := List.lookup_eq_none_iff.mp hlookup
      have hwaits : ¬ before.length < exchange.taken.length := fun hreached => by
        have hfound := hnone _ ((hreplies _).mpr ⟨hreached, rfl⟩)
        simp at hfound
      rw [if_neg hwaits]
  | some stats =>
      obtain ⟨front, rest, hfound, _⟩ := List.lookup_eq_some_iff.mp hlookup
      have hmem : (ticket, stats) ∈ exchange.replies := by
        rw [hfound]
        exact List.mem_append_right _ List.mem_cons_self
      obtain ⟨hreached, rfl⟩ := (hreplies stats).mp hmem
      rw [if_pos hreached]

/-- A call for the counters that was accepted behind a request to close gets no reply. -/
theorem statsResult?_behind_close (hlinear : Linear config exchange) {ticket : Nat}
    {before after : List Message} (haccepted : exchange.accepted = before ++ .close :: after)
    (hticket : .stats ticket ∈ after) :
    exchange.statsResult? ticket =
      if exchange.finished then some (.error .balancerClosed) else none := by
  obtain ⟨front, rest, rfl⟩ := List.append_of_mem hticket
  have hplace : exchange.accepted = (before ++ .close :: front) ++ .stats ticket :: rest := by
    rw [haccepted, List.append_assoc]
    rfl
  have hlength := hlinear.length_taken_le haccepted
  have hwaits : ¬ (before ++ .close :: front).length < exchange.taken.length := by
    rw [List.length_append, List.length_cons]
    omega
  rw [hlinear.statsResult?_eq hplace, if_neg hwaits]

end Linear

end StickyRouting.Exchange
