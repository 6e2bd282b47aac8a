import Mathlib.Data.List.InsertIdx
import StickyRouting.Proofs.Membership
import StickyRouting.Proofs.Streams

/-!
# The soft limit on streams

A router that may ask for growth sends a request to a connection only while that connection is
below the limit on streams, unless the request follows its key.  A router of a pool that cannot
grow shares connections that are at the limit.  The limit is soft for that reason, and a plain
bound is not kept by a run: what a connection carries beyond the limit is made up by the open
picks on it that are exempt, and they are settled in any order.
-/

namespace StickyRouting

/-- Whether a picker shares busy connections because it may not ask for growth. -/
def Picker.sharesBusy : Picker → Bool
  | failing _ => false
  | routing router => !router.canGrow

/-- A pick that is held, and what exempts it from the limit on streams. -/
structure OpenPick where
  pick : Pick
  /-- Whether its request followed a bound key. -/
  keyed : Bool
  /-- Whether its picker shared busy connections. -/
  shared : Bool
  deriving DecidableEq

namespace OpenPick

/-- Whether the limit on streams does not hold a pick back. -/
def isExempt (held : OpenPick) : Bool :=
  held.keyed || held.shared

def exemptOn (picks : List OpenPick) (connection : ReadyConnection) : Nat :=
  picks.countP fun held => held.isExempt && held.pick.connection = connection

/-- How many of some picks are exempt and on a meter. -/
def exemptOnMeter (picks : List OpenPick) (meter : Nat) : Nat :=
  picks.countP fun held => held.isExempt && held.pick.connection.meter = meter

theorem exemptOnMeter_append_singleton (picks : List OpenPick) (held : OpenPick) (meter : Nat) :
    exemptOnMeter (picks ++ [held]) meter =
      exemptOnMeter picks meter +
        if held.isExempt && held.pick.connection.meter = meter then 1 else 0 := by
  rw [exemptOnMeter, List.countP_append, List.countP_singleton, exemptOnMeter]

theorem exemptOnMeter_eraseIdx_le {picks : List OpenPick} {index : Nat} {held : OpenPick}
    (hheld : picks[index]? = some held) (meter : Nat) :
    exemptOnMeter picks meter ≤
      exemptOnMeter (picks.eraseIdx index) meter +
        if held.pick.connection.meter = meter then 1 else 0 := by
  have herase := Pick.countP_eraseIdx hheld fun held =>
    held.isExempt && held.pick.connection.meter = meter
  rw [exemptOnMeter, ← herase, exemptOnMeter, Nat.add_le_add_iff_left]
  by_cases hmeter : held.pick.connection.meter = meter
  · rw [if_pos hmeter]
    split <;> omega
  · simp [hmeter]

end OpenPick

/-- A router that may ask for growth sends a request without a bound key to no connection but one
below its limit. -/
theorem Router.load_lt {choose : List ReadyConnection → Option ReadyConnection} {router : Router}
    {board : Board} {request : PickRequest} {pick : Pick}
    (hunbound : boundKey? board request = none) (hgrow : router.canGrow = true)
    (hresult : (router.pickBy choose board request).result = .ok pick) :
    load board pick.connection < router.maxStreams := by
  rw [pickBy, hunbound] at hresult
  split at hresult
  · cases hresult
  · simp only [pickLeastBusy] at hresult
    split at hresult
    · cases hresult
    · split at hresult
      · next hserves =>
          cases hresult
          simpa [hgrow] using hserves
      · rw [result_pickSaturated] at hresult
        cases hresult

namespace Service

/-- The pick that is opened for a caller who picks, if one is. -/
def opened? (service : Service) (picker choice : Nat) (request : PickRequest) :
    Option OpenPick :=
  (service.published[picker]?).bind fun published =>
    (published.pickBy (tieBreak choice) service.board request).result.toOption.map fun pick =>
      { pick
        keyed := (Router.boundKey? service.board request).isSome
        shared := published.sharesBusy }

/-- A pick that is opened is held, and it is exempt or on a connection that was below the limit. -/
theorem opened_cases (service : Service) (picker choice : Nat) (request : PickRequest) :
    (∃ published opened, published ∈ service.published ∧
        service.opened? picker choice request = some opened ∧
        (service.pick picker choice request).held = service.held ++ [opened.pick] ∧
        (service.pick picker choice request).board.streams =
          (service.board.openStream opened.pick.connection.meter).streams ∧
        opened.keyed = (Router.boundKey? service.board request).isSome ∧
        opened.shared = published.sharesBusy ∧
        (opened.isExempt = false →
          ∃ router, published = .routing router ∧
            service.board.streamCount opened.pick.connection.meter < router.maxStreams)) ∨
      (service.opened? picker choice request = none ∧
        (service.pick picker choice request).held = service.held ∧
        (service.pick picker choice request).board.streams = service.board.streams) := by
  rcases service.pick_streams picker choice request with
    ⟨published, pick, hpicker, hentry, hresult, hheld, hstreams⟩ | ⟨hrefused, hheld, hstreams⟩
  · refine .inl ⟨published, ⟨pick, _, _⟩, List.mem_of_getElem? hpicker, ?_, hheld, hstreams, rfl,
      rfl, fun hexempt => ?_⟩
    · rw [opened?, hpicker, Option.bind_some, hresult]
      rfl
    · obtain ⟨hkeyed, hshared⟩ := Bool.or_eq_false_iff.mp hexempt
      cases published with
      | failing failure => cases hentry
      | routing router =>
          have hunbound := Option.not_isSome_iff_eq_none.mp (Bool.not_eq_true _ ▸ hkeyed)
          have hgrow : router.canGrow = true := by simpa [Picker.sharesBusy] using hshared
          exact ⟨router, rfl, Router.load_lt hunbound hgrow hresult⟩
  · refine .inr ⟨?_, hheld, hstreams⟩
    rw [opened?]
    cases hpicker : service.published[picker]? with
    | none => rfl
    | some published =>
        obtain ⟨error, hresult⟩ := hrefused published hpicker
        rw [Option.bind_some, hresult]
        rfl

end Service

/-! ## The excess of a connection -/

namespace Run

/-- The picks that are held at the end of a run, oldest first, with what exempts them. -/
def openPicks : Run → List OpenPick
  | start _ => []
  | next run (.pick picker choice request) =>
      run.openPicks ++ (run.service.opened? picker choice request).toList
  | next run (.settle index _) => run.openPicks.eraseIdx index
  | next run (.operate _ _) | next run (.send _) | next run (.pump _) | next run .stopQueue
  | next run .close => run.openPicks

theorem openPicks_held (run : Run) : run.openPicks.map OpenPick.pick = run.service.held := by
  induction run with
  | start config => rfl
  | next run move ih =>
      cases move with
      | pick picker choice request =>
          rw [openPicks, List.map_append, ih, service, Service.step]
          rcases run.service.opened_cases picker choice request with
            ⟨_, opened, _, hopened, hheld, _⟩ | ⟨hnone, hheld, _⟩
          · rw [hopened, hheld]
            rfl
          · rw [hnone, hheld]
            exact List.append_nil _
      | settle index completion =>
          rw [openPicks, ← List.eraseIdx_map, ih, service, Service.step]
          rcases run.service.settle_streams index completion with ⟨_, _, hheld, _⟩ | ⟨hnone, hsame⟩
          · rw [hheld]
          · rw [hsame, List.eraseIdx_of_length_le (List.getElem?_eq_none_iff.mp hnone)]
      | operate _ _ | send _ | pump _ | stopQueue | close =>
          rw [openPicks, ih, service, (run.service.streams_quiet (by simp) (by simp)).1]

/-- What a meter shows beyond the limit on streams is made up by exempt picks. -/
theorem streamCount_le (run : Run) (meter : Nat) :
    (run.service.board.streamCount meter).toNat ≤
      run.config.maxStreams.toNat + OpenPick.exemptOnMeter run.openPicks meter := by
  induction run with
  | start config => exact Nat.zero_le _
  | next run move ih =>
      rw [service, config]
      cases move with
      | pick picker choice request =>
          rw [openPicks, Service.step]
          rcases run.service.opened_cases picker choice request with
            ⟨published, opened, hpublished, hopened, _, hstreams, _, _, hlimit⟩ |
              ⟨hnone, _, hstreams⟩
          · have hafter := Board.toNat_streamCount_openStream_le run.service.board
              opened.pick.connection.meter meter
            rw [Board.streamCount_congr hstreams, hopened, Option.toList_some,
              OpenPick.exemptOnMeter_append_singleton]
            by_cases hmeter : opened.pick.connection.meter = meter
            · cases hexempt : opened.isExempt with
              | true =>
                  simp only [hmeter, if_true, Bool.true_and, decide_true] at hafter ⊢
                  omega
              | false =>
                  -- The router saw the connection below the limit when it chose it.
                  obtain ⟨router, rfl, hbelow⟩ := hlimit hexempt
                  rw [run.maxStreams_of_published hpublished, hmeter,
                    UInt32.lt_iff_toNat_lt] at hbelow
                  rw [if_pos hmeter] at hafter
                  omega
            · rw [if_neg hmeter] at hafter
              omega
          · rw [Board.streamCount_congr hstreams, hnone, Option.toList_none, List.append_nil]
            exact ih
      | settle index completion =>
          rw [openPicks, Service.step]
          rcases run.service.settle_streams index completion with
            ⟨pick, hpick, _, hstreams⟩ | ⟨hnone, hsame⟩
          · rw [← run.openPicks_held, List.getElem?_map] at hpick
            obtain ⟨held, hheld, rfl⟩ := Option.map_eq_some_iff.mp hpick
            -- The stream that is closed makes up for the pick if that was exempt.
            have herase := OpenPick.exemptOnMeter_eraseIdx_le hheld meter
            rw [Board.streamCount_congr hstreams, Board.toNat_streamCount_closeStream]
            omega
          · rw [← run.openPicks_held, List.getElem?_eq_none_iff, List.length_map] at hnone
            rw [hsame, List.eraseIdx_of_length_le hnone]
            exact ih
      | operate _ _ | send _ | pump _ | stopQueue | close =>
          rw [openPicks, Board.streamCount_congr (run.service.streams_quiet (by simp) (by simp)).2]
          exact ih

/-- On a connection that was created, the exempt picks on its meter are the exempt picks on it. -/
theorem exemptOnMeter_openPicks (run : Run) {connection : ReadyConnection}
    (hcreated : run.service.Created connection) :
    OpenPick.exemptOnMeter run.openPicks connection.meter =
      OpenPick.exemptOn run.openPicks connection := by
  apply List.countP_congr
  intro held hheld
  have hpick : held.pick ∈ run.service.held := by
    rw [← run.openPicks_held]
    exact List.mem_map_of_mem hheld
  simp only [Bool.and_eq_true, decide_eq_true_eq]
  apply and_congr_right
  intro _
  constructor
  · exact (run.created_of_held held.pick hpick).eq_of_meter hcreated
  · rintro rfl
    rfl

/-- Growth fails only where the channel refuses a connection. -/
theorem refused_of_growthFailed (run : Run) (hfailed : run.GrowthFailed) :
    ∃ error, .refused error ∈ run.service.answers := by
  induction run with
  | start config => exact hfailed.elim
  | next run move ih =>
      rw [GrowthFailed] at hfailed
      rw [service]
      cases hjob : run.service.job? move with
      | none =>
          rw [hjob] at hfailed
          rw [Service.answers_idle hjob]
          exact ih hfailed
      | some job =>
          rw [hjob] at hfailed
          rw [Service.answers_of_job hjob]
          rcases hfailed with ⟨hscaleUp, hbelow, hnone⟩ | ⟨hbefore, _⟩
          · have hasks : Job.Asks ⟨job.pool, .event .scaleUp, job.answer⟩ := .inr ⟨rfl, hbelow⟩
            have hanswers : job.outcome.answers = [job.answer] := by
              rw [Job.outcome, hscaleUp]
              rcases job.pool.answers_handle .scaleUp job.answer with ⟨_, hone⟩ | ⟨hnot, _⟩
              · exact hone
              · exact absurd hasks hnot
            cases hanswer : job.answer with
            | granted handle =>
                rw [hanswer] at hnone
                cases hnone
            | refused error =>
                refine ⟨error, List.mem_append_right _ ?_⟩
                rw [hanswers, hanswer]
                exact List.mem_cons_self
          · obtain ⟨error, hmem⟩ := ih hbefore
            exact ⟨error, List.mem_append_left _ hmem⟩

/-- What the channel has answered stays answered. -/
theorem mem_answers_next {run : Run} (move : Move) {answer : Answer}
    (hanswer : answer ∈ run.service.answers) : answer ∈ (run.next move).service.answers := by
  rw [service]
  cases hjob : run.service.job? move with
  | none =>
      rw [Service.answers_idle hjob]
      exact hanswer
  | some job =>
      rw [Service.answers_of_job hjob]
      exact List.mem_append_left _ hanswer

/-- Where the number of connections is not limited and the channel refuses none, every router may
ask for growth. -/
theorem sharesBusy_of_published (run : Run) (hunlimited : run.config.maxConnections = 0)
    (hgranted : ∀ error, .refused error ∉ run.service.answers) :
    ∀ picker ∈ run.service.published, picker.sharesBusy = false := by
  induction run with
  | start config =>
      intro picker hpicker
      rw [List.mem_singleton.mp hpicker]
      rfl
  | next run move ih =>
      intro picker hpicker
      obtain ⟨new, hpublished, hnew⟩ := run.service.published_step move
      rw [service, hpublished, List.mem_append] at hpicker
      rcases hpicker with hold | hmem
      · exact ih hunlimited (fun error hrefused => hgranted error (mem_answers_next move hrefused))
          picker hold
      · rcases hnew picker hmem with rfl | ⟨job, hjob, rfl⟩
        · rfl
        · have hopen : (run.next move).service.pool = some job.outcome.pool :=
            (Service.step_of_job hjob).1
          have hconfig := (run.next move).config_eq hopen
          cases hpicker : (job.pool.publication job.outcome).picker with
          | failing failure => rfl
          | routing router =>
              have hgrow : job.outcome.pool.canGrow = true := by
                rw [← (run.next move).canGrow_iff hopen]
                refine ⟨⟨_, hopen, .inl (hconfig ▸ hunlimited)⟩, fun hfailed => ?_⟩
                obtain ⟨error, hrefused⟩ := (run.next move).refused_of_growthFailed hfailed
                exact hgranted error hrefused
              rw [Picker.sharesBusy, (Pool.publication_eq_routing hpicker).2.2, hgrow]
              rfl

/-- In such a pool, only a bound key exempts a pick. -/
theorem isExempt_openPicks (run : Run) (hunlimited : run.config.maxConnections = 0)
    (hgranted : ∀ error, .refused error ∉ run.service.answers) :
    ∀ held ∈ run.openPicks, held.isExempt = held.keyed := by
  induction run with
  | start config => exact fun _ hheld => absurd hheld List.not_mem_nil
  | next run move ih =>
      have hbefore : ∀ error, .refused error ∉ run.service.answers :=
        fun error hrefused => hgranted error (mem_answers_next move hrefused)
      intro held hheld
      cases move with
      | pick picker choice request =>
          rw [openPicks, List.mem_append, Option.mem_toList] at hheld
          rcases hheld with hold | hopened
          · exact ih hunlimited hbefore held hold
          · rcases run.service.opened_cases picker choice request with
              ⟨published, opened, hpublished, hsome, _, _, _, hshared, _⟩ | ⟨hnone, _⟩
            · obtain rfl : opened = held := Option.some.inj (hsome.symm.trans hopened)
              rw [OpenPick.isExempt, hshared,
                run.sharesBusy_of_published hunlimited hbefore published hpublished, Bool.or_false]
            · rw [hnone] at hopened
              cases hopened
      | settle index completion =>
          exact ih hunlimited hbefore held (List.mem_of_mem_eraseIdx hheld)
      | operate _ _ | send _ | pump _ | stopQueue | close => exact ih hunlimited hbefore held hheld

/-- In such a pool, a request without a bound key takes no connection beyond the limit. -/
theorem streamCount_pick_unbound (run : Run) (hunlimited : run.config.maxConnections = 0)
    (hgranted : ∀ error, .refused error ∉ run.service.answers) (picker choice : Nat)
    {request : PickRequest} (hunbound : Router.boundKey? run.service.board request = none)
    (meter : Nat) :
    (run.next (.pick picker choice request)).service.board.streamCount meter =
        run.service.board.streamCount meter ∨
      (run.next (.pick picker choice request)).service.board.streamCount meter ≤
        run.config.maxStreams := by
  rw [service, Service.step]
  rcases run.service.opened_cases picker choice request with
    ⟨published, opened, hpublished, _, _, hstreams, hkeyed, hshared, hlimit⟩ | ⟨_, _, hstreams⟩
  · have hexempt : opened.isExempt = false := by
      rw [OpenPick.isExempt, hkeyed, hunbound, hshared,
        run.sharesBusy_of_published hunlimited hgranted published hpublished]
      rfl
    obtain ⟨router, rfl, hbelow⟩ := hlimit hexempt
    rw [run.maxStreams_of_published hpublished, UInt32.lt_iff_toNat_lt] at hbelow
    rw [Board.streamCount_congr hstreams, Board.streamCount_openStream]
    split
    · next hmeter =>
        subst hmeter
        apply Or.inr
        have hafter := Board.toNat_streamCount_openStream_le run.service.board
          opened.pick.connection.meter opened.pick.connection.meter
        rw [Board.streamCount_openStream, if_pos rfl, if_pos rfl] at hafter
        exact UInt32.le_iff_toNat_le.mpr (Nat.le_trans hafter hbelow)
    · exact .inl rfl
  · exact .inl (Board.streamCount_congr hstreams meter)

/-- What a connection carries beyond the limit on streams is made up by the picks open on it that
followed a bound key, or whose picker shared busy connections.  Where the number of connections is
not limited and the channel refuses none, bound keys are the only exemption, and a request without
one takes no connection beyond the limit. -/
theorem streams_limited (run : Run) :
    run.openPicks.map OpenPick.pick = run.service.held ∧
      (∀ connection : ReadyConnection, run.service.Created connection →
        (run.service.board.streamCount connection.meter).toNat ≤
          run.config.maxStreams.toNat + OpenPick.exemptOn run.openPicks connection) ∧
      (run.config.maxConnections = 0 → (∀ error, .refused error ∉ run.service.answers) →
        (∀ held ∈ run.openPicks, held.isExempt = held.keyed) ∧
        ∀ (picker choice : Nat) (request : PickRequest),
          Router.boundKey? run.service.board request = none → ∀ meter : Nat,
            (run.next (.pick picker choice request)).service.board.streamCount meter =
                run.service.board.streamCount meter ∨
              (run.next (.pick picker choice request)).service.board.streamCount meter ≤
                run.config.maxStreams) := by
  refine ⟨run.openPicks_held, fun connection hcreated => ?_, fun hunlimited hgranted => ⟨?_, ?_⟩⟩
  · rw [← run.exemptOnMeter_openPicks hcreated]
    exact run.streamCount_le connection.meter
  · exact run.isExempt_openPicks hunlimited hgranted
  · intro picker choice request hunbound meter
    exact run.streamCount_pick_unbound hunlimited hgranted picker choice hunbound meter

/-- With a limit of one stream a connection carries three: when growth has failed a new router
shares it, and the old router still follows a key to it.  In the pool that may grow, a key takes the
connection beyond the limit, and a request without a key is refused then. -/
theorem streams_limited_shared :
    let first : ReadyConnection := ⟨⟨0, .first⟩, 0⟩
    let keyed : PickRequest := { key := some "key", command := .bound }
    let bind (run : Run) := (run.next (.send (.bind "key" .first))).next .drain
    let blocked := (firstRequest { maxConnections := 2, maxStreams := 1 }).next (.pick 1 0 {})
    let shared := (bind ((blocked.next .drain).next (.pick 2 0 {}))).next (.pick 1 0 keyed)
    let growing := (bind (firstRequest { maxConnections := 0, maxStreams := 1 })).next
      (.pick 1 0 keyed)
    (shared.service.Created first ∧
        shared.openPicks.map OpenPick.isExempt = [false, true, true] ∧
        shared.openPicks.map OpenPick.keyed = [false, false, true] ∧
        (shared.service.board.streamCount 0).toNat = 3 ∧
        (shared.service.board.streamCount 0).toNat ≤
          1 + OpenPick.exemptOn shared.openPicks first) ∧
      growing.config.maxConnections = 0 ∧
        (∀ error, .refused error ∉ growing.service.answers) ∧
        Router.boundKey? growing.service.board {} = none ∧
        (∀ held ∈ growing.openPicks, held.isExempt = held.keyed) ∧
        growing.service.board.streamCount 0 = 2 ∧
        (growing.next (.pick 1 0 {})).service.board.streamCount 0 = 2 := by
  intro first keyed bind blocked shared growing
  have hcreated : shared.service.granted[0]? = some ⟨0, .first⟩ := by decide +kernel
  have hunlimited : growing.config.maxConnections = 0 := by rfl
  have hanswers : growing.service.answers = [.granted ⟨0, .first⟩] := by decide +kernel
  have hgranted (error : Error) : .refused error ∉ growing.service.answers := by
    rw [hanswers]
    simp
  have hunbound : Router.boundKey? growing.service.board {} = none := rfl
  have htwo : growing.service.board.streamCount 0 = 2 := by decide +kernel
  obtain ⟨_, hlimit, _⟩ := shared.streams_limited
  obtain ⟨_, _, hgrowing⟩ := growing.streams_limited
  obtain ⟨hexempt, hunkeyed⟩ := hgrowing hunlimited hgranted
  refine ⟨⟨hcreated, by decide +kernel, by decide +kernel, by decide +kernel,
    hlimit first hcreated⟩, hunlimited, hgranted, hunbound, hexempt, htwo, ?_⟩
  rcases hunkeyed 1 0 {} hunbound 0 with hsame | hwithin
  · exact hsame.trans htwo
  · exact absurd hwithin (by decide +kernel)

end Run

end StickyRouting
