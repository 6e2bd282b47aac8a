import Mathlib.Data.List.Perm.Basic
import StickyRouting.Proofs.Publication

/-!
# Meters and the picks held on them

The channel may grant one identifier again and again, so a connection is known by its meter: the
meters are numbered in the order in which handles are granted, and the pool, its pickers and the
picks of callers all carry the meter of the connection that they mean.  The open streams on a
meter are the picks that are held on it, because a stream is opened for every pick that succeeds
and closed for every pick that is settled, and nothing else writes to the meters.
-/

namespace StickyRouting

namespace Board

variable (board : Board)

theorem streamCount_openStream (opened meter : Nat) :
    (board.openStream opened).streamCount meter =
      if opened = meter then board.streamCount meter + 1 else board.streamCount meter := by
  rw [openStream, streamCount, Std.ExtTreeMap.getElem?_insert]
  by_cases hmeter : opened = meter
  · subst hmeter
    rw [if_pos Std.ReflCmp.compare_self, if_pos rfl, Option.getD_some]
  · rw [if_neg (by simpa using hmeter), if_neg hmeter, streamCount]

theorem toNat_streamCount_openStream (opened meter : Nat)
    (hroom : (board.streamCount opened).toNat + 1 < UInt32.size) :
    ((board.openStream opened).streamCount meter).toNat =
      (board.streamCount meter).toNat + if opened = meter then 1 else 0 := by
  rw [streamCount_openStream]
  split
  · next hmeter =>
      subst hmeter
      rw [UInt32.toNat_add]
      exact Nat.mod_eq_of_lt hroom
  · rfl

/-- A counter that is full starts again at zero, so that opening a stream adds one at most. -/
theorem toNat_streamCount_openStream_le (opened meter : Nat) :
    ((board.openStream opened).streamCount meter).toNat ≤
      (board.streamCount meter).toNat + if opened = meter then 1 else 0 := by
  rw [streamCount_openStream]
  split
  · rw [UInt32.toNat_add]
    exact Nat.mod_le _ _
  · exact Nat.le_refl _

theorem toNat_streamCount_closeStream (closed meter : Nat) :
    ((board.closeStream closed).streamCount meter).toNat =
      (board.streamCount meter).toNat - if closed = meter then 1 else 0 := by
  rw [closeStream]
  split
  · next hzero =>
      by_cases hmeter : closed = meter
      · subst hmeter
        rw [hzero, if_pos rfl]
        rfl
      · rw [if_neg hmeter, Nat.sub_zero]
  · next hcount =>
      rw [streamCount, Std.ExtTreeMap.getElem?_insert]
      by_cases hmeter : closed = meter
      · subst hmeter
        have hone : 1 ≤ board.streamCount closed := by
          rw [UInt32.le_iff_toNat_le]
          have hpositive : (board.streamCount closed).toNat ≠ 0 := by
            simpa [← UInt32.toNat_inj] using hcount
          simpa using Nat.one_le_iff_ne_zero.mpr hpositive
        rw [if_pos Std.ReflCmp.compare_self, if_pos rfl, Option.getD_some]
        simpa using UInt32.toNat_sub_of_le _ _ hone
      · rw [if_neg (by simpa using hmeter), if_neg hmeter, Nat.sub_zero]
        rfl

variable {board}

theorem streamCount_congr {other : Board} (hstreams : board.streams = other.streams)
    (meter : Nat) : board.streamCount meter = other.streamCount meter := by
  rw [streamCount, hstreams, streamCount]

theorem streams_applyAll (board : Board) (actions : List Action) :
    (board.applyAll actions).streams = board.streams := by
  induction actions generalizing board with
  | nil => rfl
  | cons action actions ih =>
      cases action <;> exact ih _

end Board

namespace Service

variable {service : Service} {move : Move}

/-- A caller who picks holds one pick more and has opened its stream, or has opened none. -/
theorem pick_streams (service : Service) (picker choice : Nat) (request : PickRequest) :
    (∃ published pick, service.published[picker]? = some published ∧
        pick.connection ∈ published.entries ∧
        (published.pickBy (tieBreak choice) service.board request).result = .ok pick ∧
        (service.pick picker choice request).held = service.held ++ [pick] ∧
        (service.pick picker choice request).board.streams =
          (service.board.openStream pick.connection.meter).streams) ∨
      ((∀ published, service.published[picker]? = some published →
          ∃ error, (published.pickBy (tieBreak choice) service.board request).result =
            .error error) ∧
        (service.pick picker choice request).held = service.held ∧
        (service.pick picker choice request).board.streams = service.board.streams) := by
  cases hpicker : service.published[picker]? with
  | none =>
      rw [pick_of_unpublished hpicker]
      exact .inr ⟨nofun, rfl, rfl⟩
  | some published =>
      rw [pick_of_published hpicker, enqueue_held, enqueue_board]
      rcases published.pickBy_outcome choice service.board request with
        ⟨connection, hentry, houtcome⟩ | ⟨notices, houtcome⟩ | ⟨router, _, _, houtcome⟩
      · rw [houtcome]
        exact .inl ⟨published, _, rfl, hentry, congrArg PickOutcome.result houtcome, rfl, rfl⟩
      all_goals
        refine .inr ⟨?_, ?_, ?_⟩
        · rintro _ ⟨⟩
          exact ⟨_, congrArg PickOutcome.result houtcome⟩
        · rw [houtcome]
          exact List.append_nil _
        · rw [houtcome]
          rfl

/-- Only picks and settlements write to the meters or change which picks are held. -/
theorem streams_quiet (service : Service) {move : Move}
    (hpick : ∀ picker choice request, move ≠ .pick picker choice request)
    (hsettle : ∀ index completion, move ≠ .settle index completion) :
    (service.step move).held = service.held ∧
      (service.step move).board.streams = service.board.streams := by
  cases move with
  | operate operation answer =>
      rw [step]
      cases service.job? (.operate operation answer) with
      | none => exact ⟨rfl, rfl⟩
      | some job => exact ⟨rfl, Board.streams_applyAll _ _⟩
  | pump answer =>
      rw [step]
      cases service.job? (.pump answer) with
      | none => exact ⟨rfl, rfl⟩
      | some job => exact ⟨rfl, Board.streams_applyAll _ _⟩
  | send event => exact ⟨enqueue_held _ _, by rw [step, enqueue_board]⟩
  | pick picker choice request => exact absurd rfl (hpick picker choice request)
  | settle index completion => exact absurd rfl (hsettle index completion)
  | stopQueue => exact ⟨rfl, rfl⟩
  | close =>
      rw [step, close]
      cases service.pool with
      | none => exact ⟨rfl, rfl⟩
      | some pool => exact ⟨rfl, Board.streams_applyAll _ _⟩

/-- A settlement closes the stream of a held pick, or finds none and does nothing. -/
theorem settle_streams (service : Service) (index : Nat) (completion : Completion) :
    (∃ pick, service.held[index]? = some pick ∧
        (service.settle index completion).held = service.held.eraseIdx index ∧
        (service.settle index completion).board.streams =
          (service.board.closeStream pick.connection.meter).streams) ∨
      (service.held[index]? = none ∧ service.settle index completion = service) := by
  cases hpick : service.held[index]? with
  | none => exact .inr ⟨rfl, settle_of_not_held hpick completion⟩
  | some pick =>
      rw [settle_of_held hpick, enqueue_held, enqueue_board]
      exact .inl ⟨pick, rfl, rfl, rfl⟩

/-- A move opens the stream of a new pick, closes the stream of a held one, or leaves the meters
and the held picks alone. -/
theorem streams_step (service : Service) (move : Move) :
    (∃ pick, (∃ picker ∈ service.published, pick.connection ∈ picker.entries) ∧
        (service.step move).held = service.held ++ [pick] ∧
        (service.step move).board.streams =
          (service.board.openStream pick.connection.meter).streams) ∨
      (∃ index pick, service.held[index]? = some pick ∧
        (service.step move).held = service.held.eraseIdx index ∧
        (service.step move).board.streams =
          (service.board.closeStream pick.connection.meter).streams) ∨
      ((service.step move).held = service.held ∧
        (service.step move).board.streams = service.board.streams) := by
  cases move with
  | pick picker choice request =>
      rcases service.pick_streams picker choice request with
        ⟨published, pick, hpicker, hentry, _, hopened⟩ | ⟨_, hkept⟩
      · exact .inl ⟨pick, ⟨published, List.mem_of_getElem? hpicker, hentry⟩, hopened⟩
      · exact .inr (.inr hkept)
  | settle index completion =>
      rcases service.settle_streams index completion with ⟨pick, hclosed⟩ | ⟨_, hsame⟩
      · exact .inr (.inl ⟨index, pick, hclosed⟩)
      · rw [step, hsame]
        exact .inr (.inr ⟨rfl, rfl⟩)
  | operate _ _ | pump _ | send _ | stopQueue | close =>
      exact .inr (.inr (service.streams_quiet (by simp) (by simp)))

/-! ## Connections that were ever created -/

def granted (service : Service) : List Handle :=
  service.actions.filterMap Action.granted?

/-- Whether a connection was ever created.  The connection of the first granted handle has meter
zero, that of the second one meter one, and so on. -/
def Created (service : Service) (connection : ReadyConnection) : Prop :=
  service.granted[connection.meter]? = some connection.handle

theorem Created.eq_of_meter {left right : ReadyConnection} (hleft : service.Created left)
    (hright : service.Created right) (hmeter : left.meter = right.meter) : left = right := by
  cases left with
  | mk leftHandle leftMeter =>
      cases right with
      | mk rightHandle rightMeter =>
          obtain rfl : leftMeter = rightMeter := hmeter
          obtain rfl : leftHandle = rightHandle := Option.some.inj (hleft.symm.trans hright)
          rfl

theorem granted_of_job {job : Job} (hjob : service.job? move = some job) :
    (service.step move).granted = service.granted ++ job.outcome.granted :=
  observe_of_job Action.granted? hjob

theorem granted_idle (hjob : service.job? move = none) :
    (service.step move).granted = service.granted :=
  observe_idle (fun _ => rfl) hjob

/-- A connection stays created. -/
theorem Created.step {connection : ReadyConnection} (hcreated : service.Created connection) :
    (service.step move).Created connection := by
  cases hjob : service.job? move with
  | some job =>
      have hmeter := (List.getElem?_eq_some_iff.mp hcreated).1
      rw [Created, granted_of_job hjob, List.getElem?_append_left hmeter]
      exact hcreated
  | none =>
      rw [Created, granted_idle hjob]
      exact hcreated

end Service

/-- A tracked connection was tracked before with the same handle and meter, or it is the one that
was granted, and has the next meter. -/
theorem Effect.metered {books next : Books} {operation : Pool.Operation} {granted : List Handle}
    (heffect : Effect books operation granted next) :
    next.nextMeter = books.nextMeter + granted.length ∧
      ∀ (id : ConnectionId) (connection : Connection),
        next.connections[id]? = some connection →
          (∃ tracked, books.connections[id]? = some tracked ∧
              ReadyConnection.ofConnection tracked = .ofConnection connection) ∨
            granted = [connection.handle] ∧ connection.meter = books.nextMeter := by
  cases heffect with
  | quiet _ => exact ⟨rfl, fun id connection hid => .inl ⟨connection, hid, rfl⟩⟩
  | tracked _ handle =>
      refine ⟨rfl, fun id connection hid => ?_⟩
      rcases WorkingSet.insert_cases hid with ⟨_, rfl⟩ | ⟨_, hold⟩
      · exact .inr ⟨rfl, rfl⟩
      · exact .inl ⟨connection, hold, rfl⟩
  | inserted _ htarget | incremented _ _ htarget =>
      refine ⟨rfl, fun id connection hid => ?_⟩
      rcases WorkingSet.insert_cases hid with ⟨rfl, rfl⟩ | ⟨_, hold⟩
      · exact .inl ⟨_, htarget, rfl⟩
      · exact .inl ⟨connection, hold, rfl⟩
  | decremented _ htarget _ | released _ htarget _ =>
      refine ⟨rfl, fun id connection hid => ?_⟩
      rcases WorkingSet.insert_cases hid with ⟨rfl, rfl⟩ | ⟨_, hold⟩
      · refine .inl ⟨_, htarget, ?_⟩
        simp [ReadyConnection.ofConnection]
      · exact .inl ⟨connection, hold, rfl⟩
  | moved htarget _ =>
      refine ⟨rfl, fun id connection hid => ?_⟩
      rcases WorkingSet.insert_cases hid with ⟨rfl, rfl⟩ | ⟨_, hold⟩
      · exact .inl ⟨_, htarget, rfl⟩
      · exact .inl ⟨connection, hold, rfl⟩
  | evicted _ =>
      exact ⟨rfl, fun id connection hid =>
        .inl ⟨connection, (WorkingSet.erase_cases hid).2, rfl⟩⟩

/-- What an operation publishes routes over connections that it leaves tracked and ready. -/
theorem Pool.entries_publication (pool : Pool) (step : PoolStep) {entry : ReadyConnection}
    (hentry : entry ∈ (pool.publication step).picker.entries) :
    entry ∈ step.pool.connections.captured := by
  rw [publication, snapshot, picker] at hentry
  split at hentry
  · exact absurd hentry List.not_mem_nil
  · exact hentry

namespace Run

/-- The next meter is the number of granted handles, and tracked connections were created. -/
theorem created_of_tracked (run : Run) {pool : Pool} (hopen : run.service.pool = some pool) :
    pool.nextMeter = run.service.granted.length ∧
      ∀ (id : ConnectionId) (connection : Connection), pool.connections[id]? = some connection →
        run.service.Created (.ofConnection connection) := by
  induction hopen using pool_induction with
  | start config =>
      refine ⟨rfl, fun id connection hid => ?_⟩
      simp at hid
  | job run move job hjob heffect ih =>
      obtain ⟨hmeter, htracked⟩ := ih
      obtain ⟨hnext, hconnections⟩ := heffect.metered
      refine ⟨?_, fun id connection hid => ?_⟩
      · calc
          job.outcome.pool.nextMeter = job.pool.nextMeter + job.outcome.granted.length := hnext
          _ = (run.next move).service.granted.length := by
            rw [hmeter, service, Service.granted_of_job hjob, List.length_append]
      · rcases hconnections id connection hid with ⟨tracked, hold, hsame⟩ | ⟨hgranted, hnew⟩
        · rw [← hsame]
          exact (htracked id tracked hold).step
        · have hindex : connection.meter = run.service.granted.length := hnew.trans hmeter
          rw [Service.Created, service, Service.granted_of_job hjob, hgranted,
            ReadyConnection.ofConnection, hindex, List.getElem?_concat_length]
  | idle run move pool hopen hjob hfront ih =>
      have hgranted : (run.next move).service.granted = run.service.granted :=
        Service.granted_idle hjob
      simpa only [Service.Created, hgranted] using ih

/-- Every picker that was ever published routes over connections that were created. -/
theorem created_of_published (run : Run) :
    ∀ picker ∈ run.service.published, ∀ entry ∈ picker.entries,
      run.service.Created entry := by
  induction run with
  | start config =>
      intro picker hpicker entry hentry
      rw [List.mem_singleton.mp hpicker] at hentry
      cases hentry
  | next run move ih =>
      intro picker hpicker entry hentry
      obtain ⟨new, hpublished, hnew⟩ := run.service.published_step move
      rw [service, hpublished, List.mem_append] at hpicker
      rcases hpicker with hold | hpicker
      · exact (ih picker hold entry hentry).step
      · rcases hnew picker hpicker with rfl | ⟨job, hjob, rfl⟩
        · cases hentry
        · obtain ⟨id, connection, hid, _, rfl⟩ :=
            WorkingSet.mem_captured.mp (job.pool.entries_publication _ hentry)
          exact ((run.next move).created_of_tracked (Service.step_of_job hjob).1).2 id
            connection hid

/-- Every pick that is held is held on a connection that was created. -/
theorem created_of_held (run : Run) :
    ∀ pick ∈ run.service.held, run.service.Created pick.connection := by
  induction run with
  | start config => exact fun _ hpick => absurd hpick List.not_mem_nil
  | next run move ih =>
      intro held hheld
      rw [service] at hheld
      rcases run.service.streams_step move with
        ⟨pick, ⟨picker, hpicker, hentry⟩, hnew, _⟩ | ⟨index, _, _, hrest, _⟩ | ⟨hsame, _⟩
      · rw [hnew, List.mem_append, List.mem_singleton] at hheld
        rcases hheld with hold | rfl
        · exact (ih held hold).step
        · exact (run.created_of_published picker hpicker _ hentry).step
      · rw [hrest] at hheld
        exact (ih held (List.mem_of_mem_eraseIdx hheld)).step
      · rw [hsame] at hheld
        exact (ih held hheld).step

end Run

namespace Pick

def countOn (picks : List Pick) (connection : ReadyConnection) : Nat :=
  picks.countP fun pick => pick.connection = connection

/-- Whether the counters of streams are large enough for some picks. -/
def FitCounters (picks : List Pick) : Prop :=
  ∀ pick ∈ picks, countOn picks pick.connection < UInt32.size

instance (picks : List Pick) : Decidable (FitCounters picks) :=
  inferInstanceAs (Decidable (∀ pick ∈ picks, _))

/-- How many of some picks are on a meter. -/
def countOnMeter (picks : List Pick) (meter : Nat) : Nat :=
  picks.countP fun pick => pick.connection.meter = meter

theorem countOnMeter_append_singleton (picks : List Pick) (pick : Pick) (meter : Nat) :
    countOnMeter (picks ++ [pick]) meter =
      countOnMeter picks meter + if pick.connection.meter = meter then 1 else 0 := by
  rw [countOnMeter, List.countP_append, List.countP_singleton, countOnMeter]
  simp only [decide_eq_true_eq]

/-- What is taken out of a list is missing from the count. -/
theorem countP_eraseIdx {α : Type} {list : List α} {index : Nat} {item : α}
    (hitem : list[index]? = some item) (counted : α → Bool) :
    (list.eraseIdx index).countP counted + (if counted item then 1 else 0) =
      list.countP counted := by
  obtain ⟨hindex, rfl⟩ := List.getElem?_eq_some_iff.mp hitem
  rw [← (List.getElem_cons_eraseIdx_perm hindex).countP_eq, List.countP_cons]

theorem countOnMeter_eraseIdx {picks : List Pick} {index : Nat} {pick : Pick}
    (hpick : picks[index]? = some pick) (meter : Nat) :
    countOnMeter (picks.eraseIdx index) meter +
        (if pick.connection.meter = meter then 1 else 0) =
      countOnMeter picks meter := by
  have herase := countP_eraseIdx hpick fun held => held.connection.meter = meter
  simpa only [countOnMeter, decide_eq_true_eq] using herase

end Pick

namespace Run

/-- Whether at no time of a run more picks were held on one connection than its counter of streams
can count. -/
def CountersFit : Run → Prop
  | start _ => True
  | next run move => run.CountersFit ∧ Pick.FitCounters (run.service.step move).held

/-- On a connection that was created, the held picks on its meter are the held picks on it. -/
theorem countOnMeter_held (run : Run) {connection : ReadyConnection}
    (hcreated : run.service.Created connection) :
    Pick.countOnMeter run.service.held connection.meter =
      Pick.countOn run.service.held connection := by
  apply List.countP_congr
  intro pick hpick
  simp only [decide_eq_true_eq]
  constructor
  · exact (run.created_of_held pick hpick).eq_of_meter hcreated
  · rintro rfl
    rfl

/-- The open streams on every meter are the picks that are held on it. -/
theorem streamCount_eq (run : Run) (hfit : run.CountersFit) (meter : Nat) :
    (run.service.board.streamCount meter).toNat =
      Pick.countOnMeter run.service.held meter := by
  induction run generalizing meter with
  | start config => rfl
  | next run move ih =>
      have hbefore := ih hfit.1
      rw [service]
      rcases run.service.streams_step move with
        ⟨pick, _, hheld, hstreams⟩ | ⟨index, pick, hpick, hheld, hstreams⟩ | ⟨hheld, hstreams⟩
      · have hmem : pick ∈ (run.next move).service.held := by
          rw [service, hheld]
          exact List.mem_append_right _ List.mem_cons_self
        have hcount := (run.next move).countOnMeter_held
          ((run.next move).created_of_held pick hmem)
        have hsize : Pick.countOn (run.next move).service.held pick.connection < UInt32.size :=
          hfit.2 pick hmem
        rw [← hcount, service, hheld, Pick.countOnMeter_append_singleton, if_pos rfl] at hsize
        rw [Board.streamCount_congr hstreams, hheld, Pick.countOnMeter_append_singleton,
          Board.toNat_streamCount_openStream _ _ _ (by rwa [hbefore]), hbefore]
      · have herase := Pick.countOnMeter_eraseIdx hpick meter
        rw [Board.streamCount_congr hstreams, hheld, Board.toNat_streamCount_closeStream,
          hbefore]
        omega
      · rw [Board.streamCount_congr hstreams, hheld, hbefore]

end Run

end StickyRouting
