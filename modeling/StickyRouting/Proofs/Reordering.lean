import StickyRouting.Proofs.Bindings
import StickyRouting.Proofs.Calls
import StickyRouting.Proofs.Publication

/-!
# Reports on different connections in any order

What a report does to a connection depends on that connection alone, so after a sequence of reports
each connection is as the reports on it have made it, one after the other.  All else that reports
change follows from the connections as they are in the end: the tally counts them, the keys that are
left are those of the connections that are left, and the picker routes over those that are ready.
That is why the order between reports on different connections shows nowhere, although it may decide
when pickers are published and how the state of the channel changes in between.
-/

namespace StickyRouting

structure StateReport where
  id : ConnectionId
  state : ConnectivityState
  deriving DecidableEq

namespace StateReport

def event (report : StateReport) : Event :=
  .stateChanged report.id report.state

/-- The states that are reported of a connection, the oldest first. -/
def statesOf (reports : List StateReport) (id : ConnectionId) : List ConnectivityState :=
  (reports.filter fun report => report.id = id).map state

/-- Whether two sequences of reports contain the same reports, those on each connection in the
same order. -/
def SameByConnection (left right : List StateReport) : Prop :=
  ∀ id : ConnectionId,
    left.filter (fun report => report.id = id) = right.filter fun report => report.id = id

theorem statesOf_cons (report : StateReport) (reports : List StateReport) (id : ConnectionId) :
    statesOf (report :: reports) id =
      if report.id = id then report.state :: statesOf reports id else statesOf reports id := by
  rw [statesOf, List.filter_cons]
  by_cases hid : report.id = id
  · simp [hid, statesOf]
  · simp [hid, statesOf]

theorem SameByConnection.statesOf_eq {left right : List StateReport}
    (hsame : SameByConnection left right) (id : ConnectionId) :
    statesOf left id = statesOf right id := by
  rw [statesOf, hsame id, statesOf]

theorem SameByConnection.perm {left right : List StateReport}
    (hsame : SameByConnection left right) : left.Perm right := by
  rw [List.perm_iff_count]
  intro report
  have hcount (reports : List StateReport) :
      (reports.filter fun other => other.id = report.id).count report = reports.count report :=
    List.count_filter (by simp)
  rw [← hcount left, hsame report.id, hcount right]

end StateReport

namespace Connection

/-- What is left of a connection after a report on it. -/
def reported (state : ConnectivityState) (connection : Connection) : Option Connection :=
  if state = .shutdown then none else some { connection with state }

/-- What is left of a connection, if it is there at all, after a sequence of reports on it. -/
def reportedAll (tracked : Option Connection) (states : List ConnectivityState) :
    Option Connection :=
  states.foldl (fun tracked state => tracked.bind (reported state)) tracked

theorem reportedAll_none (states : List ConnectivityState) : reportedAll none states = none := by
  induction states with
  | nil => rfl
  | cons _ _ ih => exact ih

/-- The handles that reports on a connection ask to connect.  They ask its own handle whenever the
connection goes idle. -/
def reconnects (tracked : Option Connection) : List ConnectivityState → List Handle
  | [] => []
  | state :: states =>
      (if state = .idle then tracked.toList.map handle else []) ++
        reconnects (tracked.bind (reported state)) states

end Connection

namespace Effect

variable {books next : Books} {granted : List Handle} {id : ConnectionId}
  {state : ConnectivityState}

theorem getElem?_report (heffect : Effect books (.event (.stateChanged id state)) granted next)
    (other : ConnectionId) :
    next.connections[other]? =
      if id = other then (books.connections[id]?).bind (Connection.reported state)
      else books.connections[other]? := by
  cases heffect with
  | quiet hquiet =>
      split
      · next hsame =>
          rw [← hsame, WorkingSet.not_mem_iff.mp hquiet]
          rfl
      · rfl
  | tracked hcreates _ => exact hcreates.elim
  | moved hid hstate =>
      simp only [Books.record, Std.ExtTreeMap.getElem?_insert, Std.LawfulEqCmp.compare_eq_iff_eq,
        hid, Option.bind_some, Connection.reported, if_neg hstate]
  | evicted hid =>
      simp only [Books.record, Std.ExtTreeMap.getElem?_erase, Std.LawfulEqCmp.compare_eq_iff_eq,
        hid, Option.bind_some, Connection.reported, if_true]

/-- A report leaves the keys of the connections that it leaves. -/
theorem affinity_report (heffect : Effect books (.event (.stateChanged id state)) granted next)
    (hanchored : books.Anchored) (key : String) (bound : ConnectionId) :
    next.affinity[key]? = some bound ↔
      books.affinity[key]? = some bound ∧ bound ∈ next.connections := by
  have htracked (hkey : books.affinity[key]? = some bound) := hanchored key bound hkey
  cases heffect with
  | quiet _ => exact ⟨fun hkey => ⟨hkey, htracked hkey⟩, And.left⟩
  | tracked hcreates _ => exact hcreates.elim
  | moved _ _ =>
      refine ⟨fun hkey => ⟨hkey, ?_⟩, And.left⟩
      exact Std.ExtTreeMap.mem_insert.mpr (.inr (htracked hkey))
  | evicted _ =>
      simp only [Books.record, AffinityTable.getElem?_purge, Option.filter_eq_some_iff,
        Std.ExtTreeMap.mem_erase, decide_eq_true_eq, ne_eq, Std.LawfulEqCmp.compare_eq_iff_eq]
      constructor
      · rintro ⟨hkey, hne⟩
        exact ⟨hkey, Ne.symm hne, htracked hkey⟩
      · rintro ⟨hkey, hne, _⟩
        exact ⟨hkey, Ne.symm hne⟩

end Effect

namespace Pool

/-- A report on one connection asks no handle with another identifier to connect. -/
theorem connected_changeState_filter {pool : Pool} (hkeyed : pool.connections.Keyed)
    (report : StateReport) (id : ConnectionId) :
    (pool.changeState report.id report.state).connected.filter (fun handle => handle.id = id) =
      if report.id = id then
        if report.state = .idle then (pool.connections[id]?).toList.map Connection.handle else []
      else [] := by
  have hown (handle : Handle)
      (hhandle : handle ∈ (pool.changeState report.id report.state).connected) :
      handle.id = report.id := by
    rw [connected_changeState] at hhandle
    split at hhandle
    · obtain ⟨connection, hid, rfl⟩ := List.mem_map.mp hhandle
      exact hkeyed report.id connection (Option.mem_toList.mp hid)
    · cases hhandle
  by_cases hid : report.id = id
  · subst hid
    rw [if_pos rfl, ← connected_changeState, List.filter_eq_self]
    exact fun handle hhandle => decide_eq_true (hown handle hhandle)
  · rw [if_neg hid, List.filter_eq_nil_iff]
    intro handle hhandle
    rw [hown handle hhandle]
    simpa using hid

def reportAll (pool : Pool) (reports : List StateReport) : Pool :=
  reports.foldl (fun pool report => (pool.changeState report.id report.state).pool) pool

/-- After a sequence of reports, each connection is as the reports on it have made it. -/
theorem getElem?_reportAll (pool : Pool) (reports : List StateReport) (id : ConnectionId) :
    (pool.reportAll reports).connections[id]? =
      Connection.reportedAll (pool.connections[id]?) (StateReport.statesOf reports id) := by
  induction reports generalizing pool with
  | nil => rfl
  | cons report reports ih =>
      have hreport : (pool.changeState report.id report.state).pool.connections[id]? = _ :=
        (pool.changeState_effect report.id report.state).getElem?_report id
      have hrest := ih (pool.changeState report.id report.state).pool
      rw [hreport] at hrest
      rw [StateReport.statesOf_cons]
      by_cases hid : report.id = id
      · subst hid
        rw [if_pos rfl] at hrest
        rw [if_pos rfl]
        exact hrest
      · rw [if_neg hid] at hrest
        rw [if_neg hid]
        exact hrest

theorem mem_of_mem_reportAll {pool : Pool} {reports : List StateReport} {id : ConnectionId}
    (hid : id ∈ (pool.reportAll reports).connections) : id ∈ pool.connections := by
  obtain ⟨connection, hafter⟩ := WorkingSet.mem_iff.mp hid
  rw [getElem?_reportAll] at hafter
  cases hbefore : pool.connections[id]? with
  | none =>
      rw [hbefore, Connection.reportedAll_none] at hafter
      cases hafter
  | some tracked => exact WorkingSet.mem_iff.mpr ⟨tracked, hbefore⟩

/-- A sequence of reports leaves the keys of the connections that it leaves. -/
theorem affinity_reportAll {pool : Pool} (hanchored : pool.books.Anchored)
    (reports : List StateReport) (key : String) (bound : ConnectionId) :
    (pool.reportAll reports).affinity[key]? = some bound ↔
      pool.affinity[key]? = some bound ∧ bound ∈ (pool.reportAll reports).connections := by
  induction reports generalizing pool with
  | nil => exact ⟨fun hkey => ⟨hkey, hanchored key bound hkey⟩, And.left⟩
  | cons report reports ih =>
      have heffect := pool.changeState_effect report.id report.state
      have hreport : (pool.changeState report.id report.state).pool.affinity[key]? = some bound ↔
          pool.affinity[key]? = some bound ∧
            bound ∈ (pool.changeState report.id report.state).pool.connections :=
        heffect.affinity_report hanchored key bound
      have hrest := ih (heffect.anchored hanchored)
      rw [hreport, and_assoc] at hrest
      refine hrest.trans (and_congr_right fun _ => ?_)
      exact ⟨And.right, fun hleft => ⟨mem_of_mem_reportAll hleft, hleft⟩⟩

end Pool

/-! ## Runs -/

namespace Run

def report (run : Run) (reports : List StateReport) : Run :=
  reports.foldl (fun run report => run.next (.handle report.event)) run

variable {run : Run} {pool : Pool}

def reportJob (pool : Pool) (report : StateReport) : Job :=
  ⟨pool, .event report.event, .refused (.connectionCreation "refused")⟩

theorem job_of_report (hopen : run.service.pool = some pool) (report : StateReport) :
    run.service.job? (.handle report.event) = some (reportJob pool report) := by
  rw [Move.handle, Service.job?, hopen]
  rfl

theorem pool_next_report (hopen : run.service.pool = some pool) (report : StateReport) :
    (run.next (.handle report.event)).service.pool =
      some (pool.changeState report.id report.state).pool :=
  (Service.step_of_job (job_of_report hopen report)).1

theorem pool_report (hopen : run.service.pool = some pool) (reports : List StateReport) :
    (run.report reports).service.pool = some (pool.reportAll reports) := by
  induction reports generalizing run pool with
  | nil => exact hopen
  | cons report reports ih => exact ih (pool_next_report hopen report)

theorem fresh_report (hopen : run.service.pool = some pool) (hfresh : run.Follows Job.Fresh)
    (reports : List StateReport) : (run.report reports).Follows Job.Fresh := by
  induction reports generalizing run pool with
  | nil => exact hfresh
  | cons report reports ih =>
      have hjob := job_of_report hopen report
      refine ih (pool_next_report hopen report) ⟨hfresh, fun job hgiven handle hgranted => ?_⟩
      rw [hjob] at hgiven
      cases hgiven
      have hnone : (reportJob pool report).outcome.granted = [] :=
        pool.granted_changeState report.id report.state
      rw [hnone] at hgranted
      cases hgranted

/-- Some tracked connection has been reported on if one had been before, or if one of the reports is
on a connection that was tracked at first. -/
theorem hasReport_report (hopen : run.service.pool = some pool) (reports : List StateReport) :
    (run.report reports).HasReport ↔
      run.HasReport ∨ ∃ report ∈ reports, report.id ∈ pool.connections := by
  induction reports generalizing run pool with
  | nil => simp [report]
  | cons report reports ih =>
      have hjob := job_of_report hopen report
      have hfirst : (reportJob pool report).IsReport ↔ report.id ∈ pool.connections := by
        constructor
        · rintro ⟨id, state, hoperation, hid⟩
          cases hoperation
          exact hid
        · exact fun hid => ⟨report.id, report.state, rfl, hid⟩
      have hkept {id : ConnectionId} (hid : id ∈ pool.connections) (hne : report.id ≠ id) :
          id ∈ (pool.reportAll [report]).connections := by
        obtain ⟨connection, hconnection⟩ := WorkingSet.mem_iff.mp hid
        rw [WorkingSet.mem_iff, Pool.getElem?_reportAll, StateReport.statesOf_cons, if_neg hne]
        exact ⟨connection, hconnection⟩
      refine (ih (pool_next_report hopen report)).trans ?_
      rw [hasReport_of_job hjob, hfirst, or_assoc]
      refine or_congr_right ?_
      simp only [List.mem_cons, exists_eq_or_imp]
      constructor
      · rintro (hhead | ⟨other, hother, hid⟩)
        · exact .inl hhead
        · have hleft : other.id ∈ (pool.reportAll [report]).connections := hid
          exact .inr ⟨other, hother, Pool.mem_of_mem_reportAll hleft⟩
      · rintro (hhead | ⟨other, hother, hid⟩)
        · exact .inl hhead
        · by_cases hsame : report.id = other.id
          · exact .inl (hsame ▸ hid)
          · exact .inr ⟨other, hother, hkept hid hsame⟩

/-- The handles with one identifier that a sequence of reports asks to connect are those that the
reports on its connection ask. -/
theorem connected_report (hopen : run.service.pool = some pool) (reports : List StateReport)
    (id : ConnectionId) :
    (run.report reports).service.connected.filter (fun handle => handle.id = id) =
      run.service.connected.filter (fun handle => handle.id = id) ++
        Connection.reconnects (pool.connections[id]?) (StateReport.statesOf reports id) := by
  induction reports generalizing run pool with
  | nil => exact (List.append_nil _).symm
  | cons report reports ih =>
      have hfirst : (run.next (.handle report.event)).service.connected =
          run.service.connected ++ (pool.changeState report.id report.state).connected :=
        Service.connected_of_job (job_of_report hopen report)
      have hreport : (pool.changeState report.id report.state).pool.connections[id]? = _ :=
        (pool.changeState_effect report.id report.state).getElem?_report id
      have hrest := ih (pool_next_report hopen report)
      rw [hreport, hfirst, List.filter_append, List.append_assoc,
        Pool.connected_changeState_filter (run.keyed hopen)] at hrest
      rw [StateReport.statesOf_cons]
      refine hrest.trans (congrArg _ ?_)
      by_cases hid : report.id = id
      · subst hid
        rw [if_pos rfl, if_pos rfl, if_pos rfl, Connection.reconnects]
        rfl
      · rw [if_neg hid, if_neg hid, if_neg hid, List.nil_append]
        rfl

/-- The working set determines the tally, as long as the channel grants no identifier that is in
use. -/
theorem tally_congr {left right : Run} {leftPool rightPool : Pool}
    (hleftFresh : left.Follows Job.Fresh) (hrightFresh : right.Follows Job.Fresh)
    (hleft : left.service.pool = some leftPool) (hright : right.service.pool = some rightPool)
    (hconnections : leftPool.connections = rightPool.connections) :
    leftPool.tally = rightPool.tally := by
  have hcount (state : ConnectivityState) (hcounted : state.IsCounted) :
      leftPool.tally.count state = rightPool.tally.count state := by
    have hleftCount := (left.census hleft).count state hcounted
    have hrightCount := (right.census hright).count state hcounted
    rw [left.replaced_of_fresh hleftFresh] at hleftCount
    rw [right.replaced_of_fresh hrightFresh] at hrightCount
    refine hleftCount.trans (Eq.trans ?_ hrightCount.symm)
    exact congrArg (fun connections => WorkingSet.countIn connections state) hconnections
  have hready := hcount .ready True.intro
  have hconnecting := hcount .connecting True.intro
  have hfailing := hcount .transientFailure True.intro
  generalize leftPool.tally = leftTally at hready hconnecting hfailing ⊢
  generalize rightPool.tally = rightTally at hready hconnecting hfailing ⊢
  cases leftTally
  cases rightTally
  simp only [Tally.count] at hready hconnecting hfailing
  rw [hready, hconnecting, hfailing]

/-- Whether a connection has been reported on and what the tally counts determine the state of the
channel. -/
theorem state_congr {left right : Run} {leftPool rightPool : Pool}
    (hleft : left.service.pool = some leftPool) (hright : right.service.pool = some rightPool)
    (hreport : left.HasReport ↔ right.HasReport) (htally : leftPool.tally = rightPool.tally) :
    leftPool.state = rightPool.state := by
  obtain ⟨hleftSilent, hleftReported⟩ := left.state_law hleft
  obtain ⟨hrightSilent, hrightReported⟩ := right.state_law hright
  by_cases hleftReport : left.HasReport
  · rw [hleftReported hleftReport, hrightReported (hreport.mp hleftReport), htally]
  · rw [(hleftSilent hleftReport).1, (hrightSilent (mt hreport.mpr hleftReport)).1]

/-- From an open pool, as long as the channel grants no identifier that is in use, two sequences of
the same reports, those on each connection in the same order, lead to the same working set, tally
and state of the channel, to the same bindings in the table and on the board, and to a picker that
fails with the channel in both or neither and routes over the same connections.  Every handle is
asked equally often to connect. -/
theorem reports_commute (run : Run) (hfresh : run.Follows Job.Fresh) {pool : Pool}
    (hopen : run.service.pool = some pool) {left right : List StateReport}
    (hsame : StateReport.SameByConnection left right) :
    let leftService := (run.report left).service
    let rightService := (run.report right).service
    ∃ leftPool rightPool, leftService.pool = some leftPool ∧ rightService.pool = some rightPool ∧
      leftPool.connections = rightPool.connections ∧
      leftPool.tally = rightPool.tally ∧
      leftPool.state = rightPool.state ∧
      leftPool.affinity = rightPool.affinity ∧
      leftService.board.bindings = rightService.board.bindings ∧
      (∀ handle,
        leftService.connected.count handle = rightService.connected.count handle) ∧
      (leftService.board.snapshot.picker = .failing .transientFailure ↔
        rightService.board.snapshot.picker = .failing .transientFailure) ∧
      leftService.board.snapshot.picker.readyIds =
        rightService.board.snapshot.picker.readyIds := by
  intro leftService rightService
  have hleft := pool_report hopen left
  have hright := pool_report hopen right
  have hleftFresh := fresh_report hopen hfresh left
  have hrightFresh := fresh_report hopen hfresh right
  -- Each connection is as the reports on it leave it; the rest follows from the connections.
  have hconnections :
      (pool.reportAll left).connections = (pool.reportAll right).connections := by
    apply Std.ExtTreeMap.ext_getElem?
    intro id
    rw [Pool.getElem?_reportAll, Pool.getElem?_reportAll, hsame.statesOf_eq]
  have htally := tally_congr hleftFresh hrightFresh hleft hright hconnections
  have hreport : (run.report left).HasReport ↔ (run.report right).HasReport := by
    rw [hasReport_report hopen, hasReport_report hopen]
    simp only [hsame.perm.mem_iff]
  have hstate := state_congr hleft hright hreport htally
  have haffinity : (pool.reportAll left).affinity = (pool.reportAll right).affinity := by
    apply Std.ExtTreeMap.ext_getElem?
    intro key
    ext bound
    rw [Pool.affinity_reportAll (run.anchored hopen), Pool.affinity_reportAll (run.anchored hopen),
      hconnections]
  have hleftCurrent := (run.report left).current hleftFresh hleft
  have hrightCurrent := (run.report right).current hrightFresh hright
  refine ⟨_, _, hleft, hright, hconnections, htally, hstate, haffinity, ?_, ?_, ?_, ?_⟩
  · rw [(run.report left).bindings_eq hleft, (run.report right).bindings_eq hright, haffinity]
  · intro handle
    have hcount (reports : List StateReport) :
        ((run.report reports).service.connected.filter
          fun other => other.id = handle.id).count handle =
          (run.report reports).service.connected.count handle :=
      List.count_filter (by simp)
    rw [← hcount left, ← hcount right, connected_report hopen, connected_report hopen,
      hsame.statesOf_eq]
  · rw [hleftCurrent.failing, hrightCurrent.failing]
    exact iff_of_eq (congrArg (· = _) hstate)
  · rw [Picker.readyIds_eq, Picker.readyIds_eq, hleftCurrent.entries, hrightCurrent.entries]
    exact congrArg (fun connections => (WorkingSet.captured connections).map _) hconnections

/-- The second connection fails before or after the first one is up.  Only in the first of the two
orders does the channel fail in between, so that it publishes more pickers than the other. -/
theorem reports_commute_failing :
    let second : ConnectionId := ⟨2, by decide⟩
    let run := ofMoves {} [.grant 0 .first, .grant 1 second, .handle (.bind "key" .first)]
    let left : List StateReport := [⟨second, .transientFailure⟩, ⟨second, .idle⟩,
      ⟨.first, .ready⟩, ⟨.first, .idle⟩]
    let right : List StateReport := [⟨.first, .ready⟩, ⟨second, .transientFailure⟩,
      ⟨.first, .idle⟩, ⟨second, .idle⟩]
    run.Follows Job.Fresh ∧ run.service.pool.isSome ∧ StateReport.SameByConnection left right ∧
      (run.report left).service.published.length ≠ (run.report right).service.published.length ∧
        (run.report left).service.connected.count ⟨1, second⟩ =
          (run.report right).service.connected.count ⟨1, second⟩ ∧
        (run.report left).service.board.bindings = (run.report right).service.board.bindings ∧
          (run.report left).service.board.snapshot.picker = .failing .transientFailure ∧
            (run.report right).service.board.snapshot.picker = .failing .transientFailure := by
  intro second run left right
  obtain ⟨pool, hopen⟩ : ∃ pool, run.service.pool = some pool := ⟨_, rfl⟩
  have hfresh : run.Follows Job.Fresh := by decide
  have hsome : run.service.pool.isSome := by
    rw [hopen]
    rfl
  have hsame : StateReport.SameByConnection left right := by
    intro id
    by_cases hfirst : ConnectionId.first = id
    · subst hfirst
      decide
    · by_cases hsecond : second = id
      · subst hsecond
        decide
      · simp [left, right, hfirst, hsecond]
  obtain ⟨_, _, _, _, _, _, _, _, hbindings, hconnected, hfailing, _⟩ :=
    run.reports_commute hfresh hopen hsame
  have hleft : (run.report left).service.board.snapshot.picker = .failing .transientFailure := by
    decide
  refine ⟨hfresh, hsome, hsame, ?_, hconnected _, hbindings, hleft, hfailing.mp hleft⟩
  decide

end Run

end StickyRouting
