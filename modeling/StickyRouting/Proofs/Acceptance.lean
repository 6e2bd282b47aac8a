import StickyRouting.Proofs.Turns

/-!
# The order of acceptance

The loop of a balancer applies events to its pool one by one, in the order in which the queue has
accepted them.  That is an invariant of all that callers, pickers and the loop can do around a
balancer: the pool of a running loop, what the loop has done to the outside or has still to do, and
its replies are what a sequence of messages makes of a new pool, and this sequence is the front of
what was accepted.
-/

namespace StickyRouting

/-- What an action writes to a board does not depend on the board. -/
theorem Board.apply_front {left right : Board} (hsnapshot : left.snapshot = right.snapshot)
    (hbindings : left.bindings = right.bindings) (action : Action) :
    (left.apply action).snapshot = (right.apply action).snapshot ∧
      (left.apply action).bindings = (right.apply action).bindings := by
  cases action with
  | publishBindings bindings => exact ⟨hsnapshot, rfl⟩
  | storeSnapshot snapshot => exact ⟨rfl, hbindings⟩
  | requestConnection _ _ _ | connect _ | updateAddresses _ _ | reportState _ | note _ =>
      exact ⟨hsnapshot, hbindings⟩

theorem PoolStep.andThen_andThen (step : PoolStep) (next later : Pool → PoolStep) :
    (step.andThen next).andThen later = step.andThen fun pool => (next pool).andThen later := by
  simp only [andThen, after, List.append_assoc]

namespace Pool

/-- What a pool does on events that are applied one by one, each with the answer of the channel. -/
def handleAll (pool : Pool) : List (Event × Answer) → PoolStep
  | [] => .quiet pool
  | (event, answer) :: rest => (pool.handle event answer).andThen (handleAll · rest)

theorem handleAll_concat (pool : Pool) (events : List (Event × Answer)) (event : Event)
    (answer : Answer) :
    pool.handleAll (events ++ [(event, answer)]) =
      (pool.handleAll events).andThen fun handled => handled.handle event answer := by
  induction events generalizing pool with
  | nil =>
      simp only [List.nil_append, handleAll, PoolStep.andThen, PoolStep.after, PoolStep.quiet,
        List.append_nil]
  | cons first rest ih =>
      obtain ⟨firstEvent, firstAnswer⟩ := first
      rw [List.cons_append, handleAll, handleAll, PoolStep.andThen_andThen]
      exact congrArg _ (funext ih)

end Pool

namespace Exchange

def eventsOf (taken : List (Message × Answer)) : List (Event × Answer) :=
  taken.filterMap fun entry => entry.1.event?.map fun event => (event, entry.2)

/-- What a new pool does on the events among messages that were taken. -/
def served (config : Config) (taken : List (Message × Answer)) : PoolStep :=
  Pool.handleAll { config } (eventsOf taken)

variable {config : Config} {exchange : Exchange}

theorem served_event (taken : List (Message × Answer)) (event : Event) (answer : Answer) :
    served config (taken ++ [(.event event, answer)]) =
      (served config taken).andThen fun pool => pool.handle event answer := by
  rw [served, eventsOf, List.filterMap_append]
  exact Pool.handleAll_concat _ _ event answer

theorem served_other (taken : List (Message × Answer)) {message : Message} (answer : Answer)
    (hmessage : message.event? = none) :
    served config (taken ++ [(message, answer)]) = served config taken := by
  rw [served, eventsOf, List.filterMap_append, List.filterMap_cons, hmessage]
  exact congrArg _ (List.append_nil _)

/-! ## The invariant -/

/-- What the loop has noted at its first turn, if it had one. -/
def prelude (exchange : Exchange) : List Action :=
  if exchange.balancer.started then [.note .loopStarted] else []

/-- All that the loop has done to the outside or has still to do. -/
def work (exchange : Exchange) : List Action :=
  exchange.actions ++ exchange.pending

/-- Why a loop has ended: it took the first request to close, or it had taken every message and no
handle was left. -/
inductive Ended (exchange : Exchange) : Notice → Prop
  | closed {before after : List Message}
      (haccepted : exchange.accepted = before ++ .close :: after) (hfirst : .close ∉ before)
      (htaken : exchange.taken.map Prod.fst = before ++ [.close]) : Ended exchange .balancerClosed
  | abandoned (hclose : .close ∉ exchange.accepted)
      (htaken : exchange.taken.map Prod.fst = exchange.accepted)
      (hhandles : exchange.balancer.handles = 0) : Ended exchange .loopAbandoned

theorem Ended.keep {next : Exchange} {cause : Notice} (hended : exchange.Ended cause)
    (haccepted : next.accepted = exchange.accepted) (htaken : next.taken = exchange.taken)
    (hhandles : exchange.balancer.handles = 0 → next.balancer.handles = 0) : next.Ended cause := by
  cases hended with
  | closed hold hfirst hlast => exact .closed (haccepted.trans hold) hfirst (htaken ▸ hlast)
  | abandoned hclose hall hnone =>
      refine .abandoned (haccepted ▸ hclose) ?_ (hhandles hnone)
      rw [htaken, haccepted, hall]

def Progress (config : Config) (exchange : Exchange) : Prop :=
  let applied := served config exchange.taken
  match exchange.balancer.loop with
  | .running pool =>
      exchange.accepted = exchange.taken.map Prod.fst ++ exchange.balancer.queue ∧
        .close ∉ exchange.taken.map Prod.fst ∧ pool = applied.pool ∧
          exchange.work = exchange.prelude ++ applied.actions
  | .closed =>
      ∃ cause, exchange.Ended cause ∧
        exchange.work = exchange.prelude ++ applied.actions ++ applied.pool.close ++ [.note cause]
  | .crashed => False

/-- What sends messages that the queue accepts, and lets the loop alone, keeps its progress. -/
theorem Progress.keep {next : Exchange} (hprogress : exchange.Progress config)
    (hloop : next.balancer.loop = exchange.balancer.loop) (htaken : next.taken = exchange.taken)
    (hwork : next.work = exchange.work) (hprelude : next.prelude = exchange.prelude)
    (hhandles : exchange.balancer.handles = 0 → next.balancer.handles = 0)
    (haccepted : ∃ new, next.accepted = exchange.accepted ++ new ∧
      next.balancer.queue = exchange.balancer.queue ++ new ∧
      (exchange.balancer.isOpen = false → new = [])) : next.Progress config := by
  obtain ⟨new, haccepted, hqueue, hclosed⟩ := haccepted
  rw [Progress] at hprogress ⊢
  rw [hloop, htaken, hwork, hprelude]
  cases hcase : exchange.balancer.loop with
  | running pool =>
      rw [hcase] at hprogress
      obtain ⟨hold, hclose, hpool, hactions⟩ := hprogress
      refine ⟨?_, hclose, hpool, hactions⟩
      rw [haccepted, hqueue, hold, List.append_assoc]
  | closed =>
      rw [hcase] at hprogress
      obtain ⟨cause, hended, hactions⟩ := hprogress
      have hnone : new = [] := hclosed (by rw [Balancer.isOpen, hcase, Loop.isRunning])
      rw [hnone, List.append_nil] at haccepted
      exact ⟨cause, hended.keep haccepted htaken hhandles, hactions⟩
  | crashed =>
      rw [hcase] at hprogress
      exact hprogress

/-- Whether an exchange has kept to the order of acceptance from its start. -/
structure Linear (config : Config) (exchange : Exchange) : Prop where
  tickets :
    exchange.accepted.filterMap Message.ticket? = List.range exchange.balancer.nextTicket
  snapshot : exchange.balancer.board.snapshot = (Board.applyAll {} exchange.actions).snapshot
  bindings : exchange.balancer.board.bindings = (Board.applyAll {} exchange.actions).bindings
  unstarted : exchange.balancer.started = false → exchange.taken = []
  replies : ∀ ticket stats, (ticket, stats) ∈ exchange.replies ↔
    ∃ before answer after, exchange.taken = before ++ (.stats ticket, answer) :: after ∧
      stats = (served config before).pool.stats
  progress : exchange.Progress config

/-- A reply belongs to a call for the counters among the messages taken before, or to the one that
was taken last. -/
theorem reply_concat {taken : List (Message × Answer)} {message : Message} {answer : Answer}
    {ticket : Nat} {stats : Stats} :
    (∃ before given after,
        taken ++ [(message, answer)] = before ++ (.stats ticket, given) :: after ∧
          stats = (served config before).pool.stats) ↔
      (∃ before given after, taken = before ++ (.stats ticket, given) :: after ∧
          stats = (served config before).pool.stats) ∨
        message = .stats ticket ∧ stats = (served config taken).pool.stats := by
  constructor
  · rintro ⟨before, given, after, htaken, hstats⟩
    rcases List.eq_nil_or_concat after with rfl | ⟨front, last, rfl⟩
    · obtain ⟨rfl, hlast⟩ := List.append_inj' htaken rfl
      cases hlast
      exact .inr ⟨rfl, hstats⟩
    · rw [List.concat_eq_append, ← List.cons_append, ← List.append_assoc] at htaken
      obtain ⟨rfl, _⟩ := List.append_inj' htaken rfl
      exact .inl ⟨before, given, front, rfl, hstats⟩
  · rintro (⟨before, given, after, rfl, hstats⟩ | ⟨rfl, hstats⟩)
    · refine ⟨before, given, after ++ [(message, answer)], ?_, hstats⟩
      rw [List.append_assoc, List.cons_append]
    · exact ⟨taken, answer, [], rfl, hstats⟩

namespace Linear

theorem start (config : Config) : Linear config (.start config) where
  tickets := rfl
  snapshot := rfl
  bindings := rfl
  unstarted _ := rfl
  replies ticket stats := by
    refine iff_of_false List.not_mem_nil ?_
    rintro ⟨before, answer, after, htaken, _⟩
    exact List.append_ne_nil_of_right_ne_nil before (List.cons_ne_nil _ _) htaken.symm
  progress := ⟨rfl, List.not_mem_nil, rfl, rfl⟩

theorem alive (hlinear : Linear config exchange) : exchange.balancer.loop ≠ .crashed := by
  intro hloop
  have hprogress := hlinear.progress
  rw [Progress, hloop] at hprogress
  exact hprogress

theorem running (hlinear : Linear config exchange) {pool : Pool}
    (hloop : exchange.balancer.loop = .running pool) :
    exchange.accepted = exchange.taken.map Prod.fst ++ exchange.balancer.queue ∧
      .close ∉ exchange.taken.map Prod.fst ∧ pool = (served config exchange.taken).pool ∧
        exchange.work = exchange.prelude ++ (served config exchange.taken).actions := by
  have hprogress := hlinear.progress
  rw [Progress, hloop] at hprogress
  exact hprogress

theorem ended (hlinear : Linear config exchange) (hclosed : exchange.balancer.isOpen = false) :
    exchange.balancer.loop = .closed ∧ ∃ cause, exchange.Ended cause ∧
      exchange.work = exchange.prelude ++ (served config exchange.taken).actions ++
        (served config exchange.taken).pool.close ++ [.note cause] := by
  have hprogress := hlinear.progress
  rw [Progress] at hprogress
  cases hloop : exchange.balancer.loop with
  | running pool =>
      rw [Balancer.isOpen, hloop] at hclosed
      cases hclosed
  | closed =>
      rw [hloop] at hprogress
      exact ⟨rfl, hprogress⟩
  | crashed => exact absurd hloop hlinear.alive

theorem quiet {next : Exchange} (hlinear : Linear config exchange) (hquiet : Quiet exchange next) :
    Linear config next where
  tickets := hquiet.tickets hlinear.tickets
  snapshot := by rw [hquiet.snapshot, hquiet.actions, hlinear.snapshot]
  bindings := by rw [hquiet.bindings, hquiet.actions, hlinear.bindings]
  unstarted := by
    rw [hquiet.started, hquiet.taken]
    exact hlinear.unstarted
  replies := by
    rw [hquiet.replies, hquiet.taken]
    exact hlinear.replies
  progress := by
    refine hlinear.progress.keep hquiet.loop hquiet.taken ?_ ?_ hquiet.handles hquiet.accepted
    · rw [work, hquiet.actions, hquiet.pending, work]
    · rw [prelude, hquiet.started, prelude]

theorem act (hlinear : Linear config exchange) : Linear config exchange.act := by
  cases hpending : exchange.pending with
  | nil =>
      rw [Exchange.act, hpending]
      exact hlinear
  | cons action rest =>
      have hwork : exchange.act.work = exchange.work := by
        simp only [Exchange.act, work, hpending, List.append_assoc, List.singleton_append]
      have hprogress : exchange.act.Progress config := by
        refine hlinear.progress.keep ?_ ?_ hwork ?_ ?_ ⟨[], ?_, ?_, fun _ => rfl⟩
        all_goals simp only [Exchange.act, hpending, prelude, write, List.append_nil, imp_self]
      obtain ⟨hsnapshot, hbindings⟩ :=
        Board.apply_front hlinear.snapshot hlinear.bindings action
      rw [Exchange.act, hpending] at hprogress ⊢
      refine ⟨hlinear.tickets, ?_, ?_, hlinear.unstarted, hlinear.replies, hprogress⟩
      · rw [Board.applyAll, List.foldl_append]
        exact hsnapshot
      · rw [Board.applyAll, List.foldl_append]
        exact hbindings

/-- A turn adds what the loop does to what it had done, after the note of its first turn. -/
theorem work_take (hlinear : Linear config exchange) {pool : Pool}
    (hloop : exchange.balancer.loop = .running pool) (hpending : exchange.pending = []) :
    let noted := [.note .loopStarted] ++ (served config exchange.taken).actions
    exchange.actions ++ exchange.opening = noted ∧
      ∀ new, exchange.actions ++ (exchange.opening ++ new) = noted ++ new := by
  intro noted
  have hwork := (hlinear.running hloop).2.2.2
  rw [work, hpending, List.append_nil] at hwork
  have hnoted : exchange.actions ++ exchange.opening =
      [.note .loopStarted] ++ (served config exchange.taken).actions := by
    rw [hwork, prelude, opening]
    cases hstarted : exchange.balancer.started with
    | true => exact List.append_nil _
    | false =>
        rw [hlinear.unstarted hstarted]
        rfl
  refine ⟨hnoted, fun new => ?_⟩
  rw [← List.append_assoc, hnoted]

/-- Taking a message other than a call for the counters asks for no reply. -/
theorem replies_other (hlinear : Linear config exchange) {message : Message} (answer : Answer)
    (hmessage : message.ticket? = none) (ticket : Nat) (stats : Stats) :
    (ticket, stats) ∈ exchange.replies ↔
      ∃ before given after,
        exchange.taken ++ [(message, answer)] = before ++ (.stats ticket, given) :: after ∧
          stats = (served config before).pool.stats := by
  have hother : ¬ (message = .stats ticket ∧
      stats = (served config exchange.taken).pool.stats) := by
    rintro ⟨rfl, _⟩
    cases hmessage
  rw [hlinear.replies, reply_concat, or_iff_left hother]

/-- A loop that finds its queue empty ends if no handle is left, and waits otherwise. -/
theorem take_empty (hlinear : Linear config exchange) {pool : Pool}
    (hloop : exchange.balancer.loop = .running pool) (hpending : exchange.pending = [])
    (hqueue : exchange.balancer.queue = []) (answer : Answer) :
    Linear config (exchange.take answer) := by
  obtain ⟨hnoted, hwork⟩ := hlinear.work_take hloop hpending
  obtain ⟨haccepted, hclose, hpool, _⟩ := hlinear.running hloop
  rw [hqueue, List.append_nil] at haccepted
  by_cases hhandles : exchange.balancer.handles = 0
  · rw [take_abandoned hloop hqueue hhandles]
    refine ⟨hlinear.tickets, hlinear.snapshot, hlinear.bindings, nofun, hlinear.replies,
      .loopAbandoned, .abandoned (haccepted ▸ hclose) haccepted.symm hhandles, ?_⟩
    rw [work, hwork, hpool]
    exact (List.append_assoc _ _ _).symm
  · rw [take_nothing hloop hqueue hhandles]
    refine ⟨hlinear.tickets, hlinear.snapshot, hlinear.bindings, nofun, hlinear.replies, ?_⟩
    rw [Progress]
    simp only [hloop, hqueue, List.append_nil]
    exact ⟨haccepted, hclose, hpool, hnoted⟩

/-- A loop that takes a message goes one place further in the order of acceptance. -/
theorem take_message (hlinear : Linear config exchange) {pool : Pool} {message : Message}
    {rest : List Message} (hloop : exchange.balancer.loop = .running pool)
    (hpending : exchange.pending = []) (hqueue : exchange.balancer.queue = message :: rest)
    (answer : Answer) : Linear config (exchange.take answer) := by
  obtain ⟨hnoted, hwork⟩ := hlinear.work_take hloop hpending
  obtain ⟨haccepted, hclose, hpool, _⟩ := hlinear.running hloop
  rw [hqueue] at haccepted
  have hnext : exchange.accepted =
      (exchange.taken ++ [(message, answer)]).map Prod.fst ++ rest := by
    rw [haccepted, List.map_append, List.append_assoc]
    rfl
  have hopen (hother : message ≠ .close) :
      Message.close ∉ (exchange.taken ++ [(message, answer)]).map Prod.fst := by
    rw [List.map_append, List.mem_append]
    exact not_or.mpr ⟨hclose, by simpa using hother.symm⟩
  cases message with
  | event event =>
      rw [take_event hloop hqueue]
      refine ⟨hlinear.tickets, hlinear.snapshot, hlinear.bindings, nofun,
        hlinear.replies_other answer rfl, hnext, hopen nofun, ?_, ?_⟩
      · rw [served_event, hpool]
        rfl
      · rw [work, hwork, served_event, hpool]
        exact List.append_assoc _ _ _
  | stats ticket =>
      rw [take_stats hloop hqueue]
      refine ⟨hlinear.tickets, hlinear.snapshot, hlinear.bindings, nofun, ?_, ?_⟩
      · -- The reply tells of the pool that the messages before the call have left.
        intro other stats
        rw [List.mem_append, hlinear.replies, reply_concat, hpool]
        simp [eq_comm]
      · rw [Progress]
        simp only [hloop]
        rw [work, served_other _ _ rfl]
        exact ⟨hnext, hopen nofun, hpool, hnoted⟩
  | close =>
      rw [take_close hloop hqueue]
      refine ⟨hlinear.tickets, hlinear.snapshot, hlinear.bindings, nofun,
        hlinear.replies_other answer rfl, .balancerClosed, .closed haccepted hclose ?_, ?_⟩
      · rw [List.map_append]
        rfl
      · rw [work, hwork, served_other _ _ rfl, hpool]
        exact (List.append_assoc _ _ _).symm

theorem take (hlinear : Linear config exchange) {pool : Pool}
    (hloop : exchange.balancer.loop = .running pool) (hpending : exchange.pending = [])
    (answer : Answer) : Linear config (exchange.take answer) := by
  cases hqueue : exchange.balancer.queue with
  | nil => exact hlinear.take_empty hloop hpending hqueue answer
  | cons message rest => exact hlinear.take_message hloop hpending hqueue answer

theorem step (hlinear : Linear config exchange) (move : Move) :
    Linear config (exchange.step move) := by
  rcases exchange.step_kinds hlinear.alive move with
    hquiet | ⟨pool, answer, hloop, hpending, htake⟩ | hact
  · exact hlinear.quiet hquiet
  · rw [htake]
    exact hlinear.take hloop hpending answer
  · rw [hact]
    exact hlinear.act

theorem run (hlinear : Linear config exchange) (moves : List Move) :
    Linear config (exchange.run moves) := by
  induction moves generalizing exchange with
  | nil => exact hlinear
  | cons move moves ih => exact ih (hlinear.step move)

end Linear

end Exchange

end StickyRouting
