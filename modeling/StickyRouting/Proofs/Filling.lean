import Mathlib.Data.List.Nodup
import Mathlib.Algebra.BigOperators.Group.List.Basic
import Mathlib.Algebra.GroupWithZero.Nat
import StickyRouting.Proofs.StreamLimit

/-!
# How a router fills its connections

A router sends requests that no bound key routes to a least busy connection, one after the other.
As long as no stream is closed in between, it fills its connections evenly, however it decides
between equally busy ones: a connection that it has chosen is never more than one stream ahead of
another.  A router that may ask for growth serves as many requests as its connections have room for
together, and refuses all others.
-/

namespace StickyRouting

namespace Router

variable {router : Router}

/-- How many more streams the connections of a router take before each of them is at the limit. -/
def capacity (router : Router) (board : Board) : Nat :=
  (router.ready.map fun connection =>
    router.maxStreams.toNat - (load board connection).toNat).sum

/-- Whether a connection is at most one stream ahead of every connection of a router. -/
def IsLevel (router : Router) (board : Board) (connection : ReadyConnection) : Prop :=
  ∀ other ∈ router.ready, (load board connection).toNat ≤ (load board other).toNat + 1

def picksOf (results : List (Except Error Pick)) : List Pick :=
  results.filterMap Except.toOption

/-- Whether the counters of streams are large enough for the picks among some results. -/
def FitsCounters (router : Router) (board : Board) (results : List (Except Error Pick)) : Prop :=
  ∀ connection ∈ router.ready,
    (load board connection).toNat + Pick.countOn (picksOf results) connection < UInt32.size

instance (router : Router) (board : Board) (results : List (Except Error Pick)) :
    Decidable (router.FitsCounters board results) :=
  inferInstanceAs (Decidable (∀ connection ∈ router.ready, _ < _))

/-- A stretch of time in which a router is sent requests that no bound key routes, and no stream is
closed: the results of the requests, the events that they put into the queue, and the boards before
and after.  A request is served by a least busy connection, or refused because every connection is
at the limit.  Otherwise the board changes apart from its meters and marks. -/
inductive Filling (router : Router) :
    Board → List (Except Error Pick) → List Event → Board → Prop
  | done (board : Board) : Filling router board [] [] board
  | served {before middle last : Board} {pick : Pick} {results : List (Except Error Pick)}
      {events : List Event} (hleast : pick.connection ∈ router.leastBusy before)
      (hroom : load before pick.connection < router.maxStreams ∨ router.canGrow = false)
      (hstreams : middle.streams = (before.openStream pick.connection.meter).streams)
      (hasked : middle.growthAsked = before.growthAsked)
      (hrest : Filling router middle results events last) :
      Filling router before (.ok pick :: results) events last
  | refused {before middle last : Board} {results : List (Except Error Pick)}
      {events : List Event}
      (hbusy : ∀ connection ∈ router.ready, router.maxStreams ≤ load before connection)
      (hgrow : router.canGrow = true) (hstreams : middle.streams = before.streams)
      (hasked : router.serial ∈ middle.growthAsked)
      (hrest : Filling router middle results events last) :
      Filling router before (.error .noSubchannelAvailable :: results)
        ((if router.serial ∈ before.growthAsked then [] else [.scaleUp]) ++ events) last
  | idle {before middle last : Board} {results : List (Except Error Pick)} {events : List Event}
      (hstreams : middle.streams = before.streams)
      (hasked : middle.growthAsked = before.growthAsked)
      (hrest : Filling router middle results events last) :
      Filling router before results events last

theorem load_congr {left right : Board} (hstreams : left.streams = right.streams)
    (connection : ReadyConnection) : load left connection = load right connection :=
  Board.streamCount_congr hstreams connection.meter

theorem capacity_congr {left right : Board} (hstreams : left.streams = right.streams) :
    router.capacity left = router.capacity right := by
  simp only [capacity, load_congr hstreams]

theorem IsLevel.congr {left right : Board} {connection : ReadyConnection}
    (hlevel : router.IsLevel left connection) (hstreams : right.streams = left.streams) :
    router.IsLevel right connection := by
  intro other hother
  rw [load_congr hstreams, load_congr hstreams]
  exact hlevel other hother

theorem FitsCounters.congr {left right : Board} {results : List (Except Error Pick)}
    (hfits : router.FitsCounters left results) (hstreams : right.streams = left.streams) :
    router.FitsCounters right results := by
  intro connection hconnection
  rw [load_congr hstreams]
  exact hfits connection hconnection

theorem picksOf_ok (pick : Pick) (results : List (Except Error Pick)) :
    picksOf (.ok pick :: results) = pick :: picksOf results := rfl

theorem picksOf_error (error : Error) (results : List (Except Error Pick)) :
    picksOf (.error error :: results) = picksOf results := rfl

/-- A stream that is opened on one of several connections with different meters counts on that
one. -/
theorem load_opened (hdistinct : (router.ready.map ReadyConnection.meter).Nodup)
    {before after : Board} {opened : ReadyConnection} (hopened : opened ∈ router.ready)
    (hstreams : after.streams = (before.openStream opened.meter).streams)
    (hroom : (load before opened).toNat + 1 < UInt32.size) {connection : ReadyConnection}
    (hconnection : connection ∈ router.ready) :
    (load after connection).toNat =
      (load before connection).toNat + if opened = connection then 1 else 0 := by
  have hmeter : opened.meter = connection.meter ↔ opened = connection :=
    ⟨List.inj_on_of_nodup_map hdistinct hopened hconnection, congrArg ReadyConnection.meter⟩
  rw [load, Board.streamCount_congr hstreams, Board.toNat_streamCount_openStream _ _ _ hroom]
  simp only [hmeter]
  rfl

/-- A least busy connection that takes one more stream is level with the others then, and one that
was level stays so. -/
theorem IsLevel.opened (hdistinct : (router.ready.map ReadyConnection.meter).Nodup)
    {before after : Board} {opened : ReadyConnection} (hleast : opened ∈ router.leastBusy before)
    (hstreams : after.streams = (before.openStream opened.meter).streams)
    (hroom : (load before opened).toNat + 1 < UInt32.size) {connection : ReadyConnection}
    (hconnection : connection ∈ router.ready)
    (hlevel : opened = connection ∨ router.IsLevel before connection) :
    router.IsLevel after connection := by
  obtain ⟨hopened, hfewest⟩ := mem_leastBusy.mp hleast
  intro other hother
  have hless := UInt32.le_iff_toNat_le.mp (hfewest other hother)
  rw [load_opened hdistinct hopened hstreams hroom hconnection,
    load_opened hdistinct hopened hstreams hroom hother]
  by_cases hsame : opened = connection
  · rw [if_pos hsame, ← hsame]
    omega
  · have hold := hlevel.resolve_left hsame other hother
    rw [if_neg hsame]
    omega

theorem FitsCounters.room {board : Board} {pick : Pick} {results : List (Except Error Pick)}
    (hfits : router.FitsCounters board (.ok pick :: results))
    (hready : pick.connection ∈ router.ready) :
    (load board pick.connection).toNat + 1 < UInt32.size := by
  have hcount := hfits pick.connection hready
  have hone : 1 ≤ Pick.countOn (picksOf (.ok pick :: results)) pick.connection := by
    rw [picksOf_ok, Pick.countOn, List.countP_cons]
    simp
  omega

theorem countOn_picksOf_ok (pick : Pick) (results : List (Except Error Pick))
    (connection : ReadyConnection) :
    Pick.countOn (picksOf (.ok pick :: results)) connection =
      Pick.countOn (picksOf results) connection +
        if pick.connection = connection then 1 else 0 := by
  rw [picksOf_ok, Pick.countOn, List.countP_cons, Pick.countOn]
  simp only [decide_eq_true_eq]

/-- The counters that fit a served request and what comes after it fit the latter. -/
theorem FitsCounters.opened (hdistinct : (router.ready.map ReadyConnection.meter).Nodup)
    {before after : Board} {pick : Pick} {results : List (Except Error Pick)}
    (hfits : router.FitsCounters before (.ok pick :: results))
    (hready : pick.connection ∈ router.ready)
    (hstreams : after.streams = (before.openStream pick.connection.meter).streams) :
    router.FitsCounters after results := by
  intro connection hconnection
  have hcount := hfits connection hconnection
  rw [countOn_picksOf_ok] at hcount
  rw [load_opened hdistinct hready hstreams (hfits.room hready) hconnection]
  omega

/-- A stream that is opened on a connection below the limit takes one off the capacity. -/
theorem capacity_opened (hdistinct : (router.ready.map ReadyConnection.meter).Nodup)
    {before after : Board} {opened : ReadyConnection} (hopened : opened ∈ router.ready)
    (hstreams : after.streams = (before.openStream opened.meter).streams)
    (hbelow : load before opened < router.maxStreams) :
    router.capacity after + 1 = router.capacity before := by
  let room (board : Board) (connection : ReadyConnection) : Nat :=
    router.maxStreams.toNat - (load board connection).toNat
  have hless := UInt32.lt_iff_toNat_lt.mp hbelow
  have hlimit : router.maxStreams.toNat < UInt32.size := router.maxStreams.toNat_lt
  have hloads (connection : ReadyConnection) (hconnection : connection ∈ router.ready) :=
    load_opened hdistinct hopened hstreams (by omega) hconnection
  have hothers : (router.ready.erase opened).map (room after) =
      (router.ready.erase opened).map (room before) := by
    refine List.map_congr_left fun other hother => ?_
    obtain ⟨hne, hmem⟩ := (List.Nodup.of_map _ hdistinct).mem_erase_iff.mp hother
    simp only [room, hloads other hmem, if_neg (Ne.symm hne), Nat.add_zero]
  have hone : room after opened + 1 = room before opened := by
    simp only [room, hloads opened hopened, if_true]
    omega
  calc
    router.capacity after + 1 =
        room after opened + ((router.ready.erase opened).map (room after)).sum + 1 := by
      rw [List.sum_map_erase _ hopened]
      rfl
    _ = room before opened + ((router.ready.erase opened).map (room before)).sum := by
      rw [hothers, ← hone]
      omega
    _ = router.capacity before := List.sum_map_erase _ hopened

theorem streams_pickSaturated (router : Router) (board : Board) :
    (router.pickSaturated board).board.streams = board.streams := by
  rw [pickSaturated]
  split <;> rfl

theorem events_pickSaturated (router : Router) (board : Board) :
    (router.pickSaturated board).events =
      if router.serial ∈ board.growthAsked then [] else [.scaleUp] := by
  rw [pickSaturated]
  split <;> rfl

theorem capacity_eq_zero {board : Board}
    (hbusy : ∀ connection ∈ router.ready, router.maxStreams ≤ load board connection) :
    router.capacity board = 0 := by
  rw [capacity, List.sum_eq_zero]
  intro room hroom
  obtain ⟨connection, hconnection, rfl⟩ := List.mem_map.mp hroom
  exact Nat.sub_eq_zero_of_le (UInt32.le_iff_toNat_le.mp (hbusy connection hconnection))

/-! ## What a stretch of requests comes to -/

namespace Filling

variable {before last : Board} {results : List (Except Error Pick)} {events : List Event}

theorem connection_mem (hfilling : router.Filling before results events last) :
    ∀ pick ∈ picksOf results, pick.connection ∈ router.ready := by
  induction hfilling with
  | done board => exact fun _ hpick => absurd hpick List.not_mem_nil
  | served hleast _ _ _ _ ih =>
      intro pick hpick
      rcases List.mem_cons.mp hpick with rfl | hlater
      · exact (mem_leastBusy.mp hleast).1
      · exact ih pick hlater
  | refused _ _ _ _ _ ih => exact ih
  | idle _ _ _ ih => exact ih

/-- Each connection carries as many streams more as there were picks on it. -/
theorem load_eq (hfilling : router.Filling before results events last)
    (hdistinct : (router.ready.map ReadyConnection.meter).Nodup)
    (hfits : router.FitsCounters before results) {connection : ReadyConnection}
    (hconnection : connection ∈ router.ready) :
    (load last connection).toNat =
      (load before connection).toNat + Pick.countOn (picksOf results) connection := by
  induction hfilling with
  | done board => rfl
  | served hleast _ hstreams _ _ ih =>
      have hready := (mem_leastBusy.mp hleast).1
      rw [ih (hfits.opened hdistinct hready hstreams), countOn_picksOf_ok,
        load_opened hdistinct hready hstreams (hfits.room hready) hconnection]
      omega
  | refused _ _ hstreams _ _ ih =>
      rw [ih (hfits.congr hstreams), load_congr hstreams, picksOf_error]
  | idle hstreams _ _ ih => rw [ih (hfits.congr hstreams), load_congr hstreams]

/-- A connection that is level with the others stays so. -/
theorem keeps_level (hfilling : router.Filling before results events last)
    (hdistinct : (router.ready.map ReadyConnection.meter).Nodup)
    (hfits : router.FitsCounters before results) {connection : ReadyConnection}
    (hconnection : connection ∈ router.ready) (hlevel : router.IsLevel before connection) :
    router.IsLevel last connection := by
  induction hfilling with
  | done board => exact hlevel
  | served hleast _ hstreams _ _ ih =>
      have hready := (mem_leastBusy.mp hleast).1
      exact ih (hfits.opened hdistinct hready hstreams)
        (.opened hdistinct hleast hstreams (hfits.room hready) hconnection (.inr hlevel))
  | refused _ _ hstreams _ _ ih => exact ih (hfits.congr hstreams) (hlevel.congr hstreams)
  | idle hstreams _ _ ih => exact ih (hfits.congr hstreams) (hlevel.congr hstreams)

/-- A connection that was chosen is level with the others in the end. -/
theorem level_of_pick (hfilling : router.Filling before results events last)
    (hdistinct : (router.ready.map ReadyConnection.meter).Nodup)
    (hfits : router.FitsCounters before results) :
    ∀ pick ∈ picksOf results, router.IsLevel last pick.connection := by
  induction hfilling with
  | done board => exact fun _ hpick => absurd hpick List.not_mem_nil
  | served hleast _ hstreams _ hrest ih =>
      have hready := (mem_leastBusy.mp hleast).1
      have hlater := hfits.opened hdistinct hready hstreams
      intro pick hpick
      rcases List.mem_cons.mp hpick with rfl | hpick
      · exact hrest.keeps_level hdistinct hlater hready
          (.opened hdistinct hleast hstreams (hfits.room hready) hready (.inl rfl))
      · exact ih hlater pick hpick
  | refused _ _ hstreams _ _ ih => exact ih (hfits.congr hstreams)
  | idle hstreams _ _ ih => exact ih (hfits.congr hstreams)

/-- A router that may ask for growth serves the first requests, up to its capacity, and no
others. -/
theorem result_of_grows (hfilling : router.Filling before results events last)
    (hdistinct : (router.ready.map ReadyConnection.meter).Nodup) (hgrow : router.canGrow = true)
    {index : Nat} {result : Except Error Pick} (hresult : results[index]? = some result) :
    if index < router.capacity before then ∃ pick, result = .ok pick
    else result = .error .noSubchannelAvailable := by
  induction hfilling generalizing index with
  | done board => cases hresult
  | @served before _ _ pick _ _ hleast hroom hstreams _ _ ih =>
      have hbelow : load before pick.connection < router.maxStreams :=
        hroom.resolve_right (by simp [hgrow])
      have hcapacity :=
        capacity_opened hdistinct (mem_leastBusy.mp hleast).1 hstreams hbelow
      cases index with
      | zero =>
          rw [if_pos (by omega)]
          exact ⟨pick, (Option.some.inj hresult).symm⟩
      | succ index =>
          have hlater := ih hresult
          rw [← hcapacity]
          simpa only [Nat.add_lt_add_iff_right] using hlater
  | refused hbusy _ hstreams _ _ ih =>
      have hnone := capacity_eq_zero hbusy
      rw [if_neg (by omega)]
      cases index with
      | zero => exact (Option.some.inj hresult).symm
      | succ index =>
          have hlater := ih hresult
          rw [capacity_congr hstreams, hnone, if_neg (Nat.not_lt_zero _)] at hlater
          exact hlater
  | idle hstreams _ _ ih =>
      rw [← capacity_congr hstreams]
      exact ih hresult

/-- A router that may ask for growth does so once, with the first request that it refuses, unless it
has asked before. -/
theorem events_of_grows (hfilling : router.Filling before results events last)
    (hdistinct : (router.ready.map ReadyConnection.meter).Nodup) (hgrow : router.canGrow = true) :
    events =
      if router.serial ∉ before.growthAsked ∧ router.capacity before < results.length then
        [.scaleUp]
      else [] := by
  induction hfilling with
  | done board => rw [if_neg (fun hsome => Nat.not_lt_zero _ hsome.2)]
  | @served before _ _ pick _ _ hleast hroom hstreams hasked _ ih =>
      have hbelow : load before pick.connection < router.maxStreams :=
        hroom.resolve_right (by simp [hgrow])
      have hcapacity :=
        capacity_opened hdistinct (mem_leastBusy.mp hleast).1 hstreams hbelow
      rw [ih, hasked, List.length_cons, ← hcapacity]
      simp only [Nat.add_lt_add_iff_right]
  | refused hbusy _ _ hasked _ ih =>
      have hlater := ih.trans (if_neg fun hnew => hnew.1 hasked)
      rw [hlater, List.append_nil, capacity_eq_zero hbusy, List.length_cons]
      simp only [Nat.succ_pos, and_true, ite_not]
  | idle hstreams hasked _ ih => rw [ih, hasked, capacity_congr hstreams]

/-- A router that may not ask for growth serves every request. -/
theorem served_of_shares (hfilling : router.Filling before results events last)
    (hgrow : router.canGrow = false) :
    (∀ result ∈ results, ∃ pick, result = .ok pick) ∧ events = [] := by
  induction hfilling with
  | done board => exact ⟨fun _ hresult => absurd hresult List.not_mem_nil, rfl⟩
  | @served _ _ _ pick _ _ _ _ _ _ _ ih =>
      refine ⟨fun result hresult => ?_, ih.2⟩
      rcases List.mem_cons.mp hresult with rfl | hlater
      · exact ⟨pick, rfl⟩
      · exact ih.1 result hlater
  | refused _ hgrows _ _ _ _ =>
      rw [hgrow] at hgrows
      cases hgrows
  | idle _ _ _ ih => exact ih

end Filling

end Router

end StickyRouting
