import Mathlib.Logic.Function.Iterate
import StickyRouting.Proofs.Replies

/-!
# The loop applies events one by one

However callers, pickers and the loop get in between each other, the pool of a balancer is what the
events make of it that the queue has accepted, one by one in the order of acceptance, up to the
point that the loop has reached.  A reply with counters tells those of the pool at the place of the
call in that order.  The loop ends at the first request to close, or when the last handle is gone
and nothing is left in the queue, and it gets there if it is given its turns.  From then on nothing
leaves a trace any more.
-/

namespace StickyRouting.Exchange

variable {config : Config} {exchange : Exchange}

theorem closed_of_finished (hfinished : exchange.finished) :
    exchange.balancer.isOpen = false :=
  (Bool.not_eq_true' _).mp (Bool.and_eq_true_iff.mp hfinished).1

/-- A loop that has ended and has nothing left to do has put up what closed pools show. -/
theorem Linear.board_of_finished (hlinear : Linear config exchange)
    (hfinished : exchange.finished) :
    exchange.balancer.loop = .closed ∧ exchange.pending = [] ∧
      exchange.balancer.board.snapshot = .closed ∧ exchange.balancer.board.bindings = ∅ := by
  have hpending := List.isEmpty_iff.mp (Bool.and_eq_true_iff.mp hfinished).2
  obtain ⟨hloop, cause, _, hwork⟩ := hlinear.ended (closed_of_finished hfinished)
  rw [work, hpending, List.append_nil] at hwork
  refine ⟨hloop, hpending, ?_, ?_⟩
  · rw [hlinear.snapshot, hwork, Board.applyAll, List.foldl_append, List.foldl_append]
    rfl
  · rw [hlinear.bindings, hwork, Board.applyAll, List.foldl_append, List.foldl_append]
    rfl

/-- Whether an exchange whose loop had ended has gone on without a trace: the loop has done nothing
more, and the queue has accepted nothing more. -/
structure Still (before after : Exchange) : Prop where
  finished : after.finished
  actions : after.actions = before.actions
  accepted : after.accepted = before.accepted
  taken : after.taken = before.taken
  replies : after.replies = before.replies

theorem Still.trans {before middle after : Exchange} (hfirst : Still before middle)
    (hsecond : Still middle after) : Still before after :=
  ⟨hsecond.finished, hsecond.actions.trans hfirst.actions,
    hsecond.accepted.trans hfirst.accepted, hsecond.taken.trans hfirst.taken,
    hsecond.replies.trans hfirst.replies⟩

theorem Linear.still_step (hlinear : Linear config exchange) (hfinished : exchange.finished)
    (move : Move) : Still exchange (exchange.step move) := by
  obtain ⟨hloop, hpending, _⟩ := hlinear.board_of_finished hfinished
  have hsame : Still exchange exchange := ⟨hfinished, rfl, rfl, rfl, rfl⟩
  rcases exchange.step_kinds hlinear.alive move with
    hquiet | ⟨pool, _, hrunning, _⟩ | hact
  · obtain ⟨new, haccepted, _, hclosed⟩ := hquiet.accepted
    have hnone : new = [] := hclosed (by rw [Balancer.isOpen, hloop, Loop.isRunning])
    rw [hnone, List.append_nil] at haccepted
    refine ⟨?_, hquiet.actions, haccepted, hquiet.taken, hquiet.replies⟩
    rw [finished, Balancer.isOpen, hquiet.loop, hquiet.pending]
    exact hfinished
  · rw [hloop] at hrunning
    cases hrunning
  · rw [hact, Exchange.act, hpending]
    exact hsame

theorem Linear.still_run (hlinear : Linear config exchange) (hfinished : exchange.finished)
    (moves : List Move) : Still exchange (exchange.run moves) := by
  induction moves generalizing exchange with
  | nil => exact ⟨hfinished, rfl, rfl, rfl, rfl⟩
  | cons move moves ih =>
      have hstep := hlinear.still_step hfinished move
      exact hstep.trans (ih (hlinear.step move) hstep.finished)

/-! ## The loop gets through -/

/-- What the loop does next, if the channel answers in a given way. -/
def advance (channel : Exchange → Answer) (exchange : Exchange) : Exchange :=
  if exchange.pending.isEmpty then exchange.step (.turn (channel exchange))
  else exchange.step .act

/-- Whether the loop has nothing to do unless something else happens. -/
structure AtRest (exchange : Exchange) : Prop where
  pending : exchange.pending = []
  waits : exchange.finished ∨
    exchange.balancer.isOpen ∧ exchange.balancer.queue = [] ∧ exchange.balancer.handles ≠ 0

/-- How many messages the loop may take before it ends, and its end as one more. -/
def remaining (exchange : Exchange) : Nat :=
  if exchange.balancer.isOpen then exchange.balancer.queue.length + 1 else 0

variable {channel : Exchange → Answer}

theorem remaining_of_closed (hclosed : exchange.balancer.isOpen = false) :
    exchange.remaining = 0 := by
  rw [remaining, hclosed, if_neg Bool.false_ne_true]

theorem finished_of_closed (hidle : exchange.pending = [])
    (hclosed : exchange.balancer.isOpen = false) : exchange.finished := by
  rw [finished, hclosed, hidle]
  rfl

/-- A turn takes a message out of the queue or ends the loop, unless nothing is left to do. -/
theorem take_remaining {pool : Pool} (hloop : exchange.balancer.loop = .running pool)
    (answer : Answer) :
    (exchange.take answer).balancer.handles = exchange.balancer.handles ∧
      ((exchange.take answer).remaining < exchange.remaining ∨
        exchange.balancer.queue = [] ∧ exchange.balancer.handles ≠ 0) := by
  have hbefore : exchange.remaining = exchange.balancer.queue.length + 1 := by
    rw [remaining, Balancer.isOpen, hloop, Loop.isRunning, if_pos rfl]
  rw [hbefore]
  cases hqueue : exchange.balancer.queue with
  | nil =>
      by_cases hhandles : exchange.balancer.handles = 0
      · rw [take_abandoned hloop hqueue hhandles, remaining_of_closed rfl]
        exact ⟨rfl, .inl (Nat.succ_pos _)⟩
      · rw [take_nothing hloop hqueue hhandles]
        exact ⟨rfl, .inr ⟨rfl, hhandles⟩⟩
  | cons message rest =>
      cases message with
      | event event =>
          rw [take_event hloop hqueue]
          exact ⟨rfl, .inl (Nat.lt_succ_self _)⟩
      | stats ticket =>
          rw [take_stats hloop hqueue, remaining, Balancer.isOpen, hloop]
          exact ⟨rfl, .inl (Nat.lt_succ_self _)⟩
      | close =>
          rw [take_close hloop hqueue, remaining_of_closed rfl]
          exact ⟨rfl, .inl (Nat.succ_pos _)⟩

theorem advance_pending {action : Action} {rest : List Action}
    (hpending : exchange.pending = action :: rest) :
    exchange.advance channel =
      { exchange.write (exchange.balancer.board.apply action) with
        pending := rest
        actions := exchange.actions ++ [action] } := by
  rw [advance, hpending, List.isEmpty_cons, if_neg Bool.false_ne_true, step, act, hpending]

theorem advance_idle (hidle : exchange.pending = []) :
    exchange.advance channel =
      if exchange.balancer.isOpen then exchange.take (channel exchange) else exchange := by
  rw [advance, hidle, List.isEmpty_nil, if_pos rfl, step, hidle, List.isEmpty_nil, Bool.and_true]

/-- The loop neither sends anything nor drops a handle. -/
theorem advance_callers (channel : Exchange → Answer) (exchange : Exchange) :
    (exchange.advance channel).accepted = exchange.accepted ∧
      (exchange.advance channel).balancer.handles = exchange.balancer.handles := by
  cases hpending : exchange.pending with
  | cons action rest =>
      rw [advance_pending hpending]
      exact ⟨rfl, rfl⟩
  | nil =>
      rw [advance_idle hpending]
      split
      · next hopen =>
          obtain ⟨pool, hloop⟩ := running_of_open hopen
          exact ⟨rfl, (take_remaining hloop _).1⟩
      · exact ⟨rfl, rfl⟩

theorem iterate_callers (channel : Exchange → Answer) (exchange : Exchange) (turns : Nat) :
    ((advance channel)^[turns] exchange).accepted = exchange.accepted ∧
      ((advance channel)^[turns] exchange).balancer.handles = exchange.balancer.handles := by
  induction turns generalizing exchange with
  | zero => exact ⟨rfl, rfl⟩
  | succ turns ih =>
      obtain ⟨haccepted, hhandles⟩ := exchange.advance_callers channel
      exact ⟨(ih _).1.trans haccepted, (ih _).2.trans hhandles⟩

theorem Linear.iterate (hlinear : Linear config exchange) (turns : Nat) :
    Linear config ((Exchange.advance channel)^[turns] exchange) := by
  induction turns generalizing exchange with
  | zero => exact hlinear
  | succ turns ih =>
      refine ih ?_
      rw [Exchange.advance]
      split
      · exact hlinear.step _
      · exact hlinear.step _

/-- The loop gets through with what it has to do for one message. -/
theorem exists_idle (channel : Exchange → Answer) (exchange : Exchange) :
    ∃ turns, ((advance channel)^[turns] exchange).pending = [] ∧
      ((advance channel)^[turns] exchange).remaining = exchange.remaining := by
  generalize hpending : exchange.pending = pending
  induction pending generalizing exchange with
  | nil => exact ⟨0, hpending, rfl⟩
  | cons action rest ih =>
      have hadvance : exchange.advance channel = _ := advance_pending hpending
      obtain ⟨turns, hidle, hremaining⟩ := ih (exchange.advance channel) (by rw [hadvance])
      refine ⟨turns + 1, hidle, hremaining.trans ?_⟩
      rw [hadvance]
      rfl

/-- The loop comes to rest, whatever the channel answers. -/
theorem exists_rest (channel : Exchange → Answer) (exchange : Exchange) :
    ∃ turns, ((advance channel)^[turns] exchange).AtRest := by
  -- By induction on what is left to take, which a turn of an idle loop makes less.
  generalize hbound : exchange.remaining = bound
  induction bound using Nat.strongRecOn generalizing exchange with
  | ind bound ih =>
      obtain ⟨turns, hidle, hremaining⟩ := exists_idle channel exchange
      generalize hidler : (advance channel)^[turns] exchange = idler at hidle hremaining
      by_cases hrest : idler.AtRest
      · exact ⟨turns, hidler ▸ hrest⟩
      · cases hopen : idler.balancer.isOpen with
        | true =>
            obtain ⟨pool, hloop⟩ := running_of_open hopen
            have hadvance : idler.advance channel = idler.take (channel idler) := by
              rw [advance_idle hidle, hopen, if_pos rfl]
            rcases (take_remaining hloop (channel idler)).2 with hless | hwaits
            · rw [hremaining, hbound, ← hadvance] at hless
              obtain ⟨more, hmore⟩ := ih _ hless (idler.advance channel) rfl
              refine ⟨more + 1 + turns, ?_⟩
              rw [Function.iterate_add_apply, hidler]
              exact hmore
            · exact absurd ⟨hidle, .inr ⟨hopen, hwaits⟩⟩ hrest
        | false => exact absurd ⟨hidle, .inl (finished_of_closed hidle hopen)⟩ hrest

/-- A loop at rest has answered every call for the counters, and has ended if it was to close or
had no handle left. -/
theorem Linear.rested (hlinear : Linear config exchange) (hrest : exchange.AtRest) :
    (∀ ticket, .stats ticket ∈ exchange.accepted → (exchange.statsResult? ticket).isSome) ∧
      (.close ∈ exchange.accepted ∨ exchange.balancer.handles = 0 → exchange.finished) := by
  rcases hrest.waits with hfinished | ⟨hopen, hqueue, hhandles⟩
  · refine ⟨fun ticket hticket => ?_, fun _ => hfinished⟩
    obtain ⟨before, after, haccepted⟩ := List.append_of_mem hticket
    rw [hlinear.statsResult?_eq haccepted, if_pos hfinished]
    split <;> rfl
  · obtain ⟨pool, hloop⟩ := running_of_open hopen
    obtain ⟨hall, hclose, _⟩ := hlinear.running hloop
    rw [hqueue, List.append_nil] at hall
    refine ⟨fun ticket hticket => ?_, fun hcause => ?_⟩
    · obtain ⟨before, after, haccepted⟩ := List.append_of_mem hticket
      have hlength : before.length < exchange.taken.length := by
        have htotal := congrArg List.length (hall.symm.trans haccepted)
        rw [List.length_map, List.length_append, List.length_cons] at htotal
        omega
      rw [hlinear.statsResult?_eq haccepted, if_pos hlength]
      rfl
    · rcases hcause with hclosed | hnone
      · exact absurd (hall ▸ hclosed) hclose
      · exact absurd hnone hhandles

/-- A loop that runs has applied what it has taken, and the rest of what was accepted waits. -/
theorem Linear.pool_of_running (hlinear : Linear config exchange) {pool : Pool}
    (hloop : exchange.balancer.loop = .running pool) :
    exchange.accepted = exchange.taken.map Prod.fst ++ exchange.balancer.queue ∧
      pool = (served config exchange.taken).pool ∧
        exchange.work = exchange.prelude ++ (served config exchange.taken).actions := by
  obtain ⟨haccepted, _, hpool, hwork⟩ := hlinear.running hloop
  exact ⟨haccepted, hpool, hwork⟩

/-- A loop that has ended has closed the pool as the last thing, and its queue refuses messages. -/
theorem Linear.end_of_closed (hlinear : Linear config exchange)
    (hclosed : exchange.balancer.isOpen = false) :
    (∃ cause, exchange.Ended cause ∧
        exchange.work = exchange.prelude ++ (served config exchange.taken).actions ++
          (served config exchange.taken).pool.close ++ [.note cause]) ∧
      exchange.balancer.sendStats = .error .balancerClosed ∧
        ∀ message, exchange.balancer.send message = .error .balancerClosed :=
  ⟨(hlinear.ended hclosed).2, refused_of_closed hclosed⟩

/-- What was accepted behind a request to close is lost. -/
theorem Linear.lost_behind_close (hlinear : Linear config exchange) {before after : List Message}
    (haccepted : exchange.accepted = before ++ .close :: after) :
    exchange.taken.length ≤ before.length + 1 ∧
      ∀ ticket, .stats ticket ∈ after →
        exchange.statsResult? ticket =
          if exchange.finished then some (.error .balancerClosed) else none :=
  ⟨hlinear.length_taken_le haccepted, fun _ hticket =>
    hlinear.statsResult?_behind_close haccepted hticket⟩

/-- A loop that is given its turns answers every call for the counters, and ends if it was to. -/
theorem Linear.exists_answered (hlinear : Linear config exchange)
    (channel : Exchange → Answer) :
    ∃ turns,
      let rested := (advance channel)^[turns] exchange
      rested.accepted = exchange.accepted ∧
        (∀ ticket, .stats ticket ∈ exchange.accepted → (rested.statsResult? ticket).isSome) ∧
          (.close ∈ exchange.accepted ∨ exchange.balancer.handles = 0 → rested.finished) := by
  obtain ⟨turns, hrest⟩ := exists_rest channel exchange
  obtain ⟨haccepted, hhandles⟩ := iterate_callers channel exchange turns
  obtain ⟨hanswered, hended⟩ := (hlinear.iterate turns).rested hrest
  rw [haccepted] at hanswered
  rw [haccepted, hhandles] at hended
  exact ⟨turns, haccepted, hanswered, hended⟩

/-- Once a loop is through, nothing that is tried leaves a trace. -/
theorem Linear.final_of_finished (hlinear : Linear config exchange)
    (hfinished : exchange.finished) (more : List Move) :
    let later := exchange.run more
    Still exchange later ∧ later.balancer.board.snapshot = .closed ∧
      later.balancer.board.bindings = ∅ ∧
        later.balancer.sendStats = .error .balancerClosed ∧
          ∀ message, later.balancer.send message = .error .balancerClosed := by
  have hstill := hlinear.still_run hfinished more
  obtain ⟨hloop, _, hsnapshot, hbindings⟩ := (hlinear.run more).board_of_finished hstill.finished
  have hclosed : (exchange.run more).balancer.isOpen = false := by
    rw [Balancer.isOpen, hloop, Loop.isRunning]
  exact ⟨hstill, hsnapshot, hbindings, refused_of_closed hclosed⟩

/-- The loop ends for a request to close whenever the queue has accepted one. -/
theorem Ended.cause_eq {cause : Notice} (hended : exchange.Ended cause) :
    cause = if .close ∈ exchange.accepted then .balancerClosed else .loopAbandoned := by
  cases hended with
  | closed haccepted _ _ =>
      rw [if_pos (haccepted ▸ List.mem_append_right _ List.mem_cons_self)]
  | abandoned hclose _ _ => rw [if_neg hclose]

/-- Whatever happens around a balancer, the loop takes the messages in the order of acceptance.  As
long as it runs, its pool is what the events among them have made of a new pool, one by one, and
what it has done or has still to do is what the pool did on them.  It ends at the first request to
close, behind which it takes nothing, or with every message taken once no handle is left, and closes
the pool as the last thing; the queue refuses whatever is sent from then on.  A call for the
counters is replied those of the pool that the events before it have made, once the loop has come to
it, and learns otherwise in the end that the balancer is closed.  The loop gets so far if it is
given its turns.  Once it is through, nothing happens any more, whatever is tried: the snapshot is
that of a closed pool, no key is bound, and the queue takes nothing. -/
theorem linearizable (config : Config) (moves : List Move) :
    let exchange := (start config).run moves
    let applied := served config exchange.taken
    exchange.taken.map Prod.fst <+: exchange.accepted ∧
      (∀ pool, exchange.balancer.loop = .running pool →
        exchange.accepted = exchange.taken.map Prod.fst ++ exchange.balancer.queue ∧
          pool = applied.pool ∧ exchange.work = exchange.prelude ++ applied.actions) ∧
      (exchange.balancer.isOpen = false →
        (∃ cause, exchange.Ended cause ∧ exchange.work =
          exchange.prelude ++ applied.actions ++ applied.pool.close ++ [.note cause]) ∧
          exchange.balancer.sendStats = .error .balancerClosed ∧
            ∀ message, exchange.balancer.send message = .error .balancerClosed) ∧
      (∀ before ticket after, exchange.accepted = before ++ .stats ticket :: after →
        exchange.statsResult? ticket =
          if before.length < exchange.taken.length then
            some (.ok (served config (exchange.taken.take before.length)).pool.stats)
          else if exchange.finished then some (.error .balancerClosed) else none) ∧
      (∀ before after, exchange.accepted = before ++ .close :: after →
        exchange.taken.length ≤ before.length + 1 ∧
          ∀ ticket, .stats ticket ∈ after →
            exchange.statsResult? ticket =
              if exchange.finished then some (.error .balancerClosed) else none) ∧
      (∀ channel, ∃ turns,
        let rested := (advance channel)^[turns] exchange
        rested.accepted = exchange.accepted ∧
          (∀ ticket, .stats ticket ∈ exchange.accepted → (rested.statsResult? ticket).isSome) ∧
            (.close ∈ exchange.accepted ∨ exchange.balancer.handles = 0 → rested.finished)) ∧
      (exchange.finished → ∀ more : List Move,
        let later := exchange.run more
        Still exchange later ∧ later.balancer.board.snapshot = .closed ∧
          later.balancer.board.bindings = ∅ ∧
            later.balancer.sendStats = .error .balancerClosed ∧
              ∀ message, later.balancer.send message = .error .balancerClosed) := by
  intro exchange applied
  have hlinear : Linear config exchange := (Linear.start config).run moves
  exact ⟨hlinear.taken_leads_accepted, fun _ => hlinear.pool_of_running, hlinear.end_of_closed,
    fun _ _ _ => hlinear.statsResult?_eq, fun _ _ => hlinear.lost_behind_close,
    hlinear.exists_answered, hlinear.final_of_finished⟩

/-- A resolver update creates a connection, which gets ready and has a key bound to it.  The calls
for the counters in between are replied those of the pool at their places.  In the end either a
request to close comes up and a call behind it is lost, or the last handle is dropped. -/
theorem linearizable_lost :
    let granted : Answer := .granted ⟨0, .first⟩
    let sent : List Move :=
      [.send (.resolved (.addresses [{ host := "a" }])), .stats,
        .send (.stateChanged .first .ready), .stats, .send (.bind "k" .first), .stats]
    let through : List Move := .turn granted :: List.replicate 5 .act
    let handled := sent ++ (List.replicate 6 through).flatten
    let serving := (start {}).run handled
    let closed := (start {}).run (handled ++ [.close, .stats] ++ through)
    let later := closed.run [.clone, .send .scaleUp, .stats]
    let abandoned := (start {}).run (handled ++ [.drop] ++ through)
    (∃ pool, serving.balancer.loop = .running pool ∧ pool = (served {} serving.taken).pool ∧
        pool.stats = ⟨1, 1, 1, .ready⟩) ∧
      serving.statsResult? 0 = some (.ok ⟨1, 0, 0, .idle⟩) ∧
        serving.statsResult? 1 = some (.ok ⟨1, 1, 0, .ready⟩) ∧
          serving.statsResult? 2 = some (.ok ⟨1, 1, 1, .ready⟩) ∧
      (closed.finished ∧ closed.Ended .balancerClosed ∧
        closed.statsResult? 3 = some (.error .balancerClosed) ∧
          later.accepted = closed.accepted ∧ later.balancer.picker = .failing .closed) ∧
      abandoned.finished ∧ abandoned.Ended .loopAbandoned ∧
        abandoned.balancer.picker = .failing .closed := by
  intro granted sent through handled serving closed later abandoned
  let messages : List Message :=
    [.event (.resolved (.addresses [{ host := "a" }])), .stats 0,
      .event (.stateChanged .first .ready), .stats 1, .event (.bind "k" .first), .stats 2]
  have hserving := linearizable {} handled
  rw [show (start {}).run handled = serving from rfl] at hserving
  have hclosed := linearizable {} (handled ++ [.close, .stats] ++ through)
  rw [show (start {}).run _ = closed from rfl] at hclosed
  have habandoned := linearizable {} (handled ++ [.drop] ++ through)
  rw [show (start {}).run _ = abandoned from rfl] at habandoned
  have haccepted : serving.accepted = messages := by decide +kernel
  have htaken : serving.taken = messages.map fun message => (message, granted) := by
    decide +kernel
  have hopen : serving.balancer.isOpen := by decide +kernel
  have hall : closed.accepted = messages ++ [.close, .stats 3] := by decide +kernel
  have hfinished : closed.finished := by decide +kernel
  have hnone : .close ∉ abandoned.accepted := by decide +kernel
  have hgone : abandoned.finished := by decide +kernel
  clear_value serving closed abandoned
  obtain ⟨_, hpool, _, hreplies, _, _, _⟩ := hserving
  obtain ⟨_, _, hend, _, hlost, _, hfinal⟩ := hclosed
  obtain ⟨_, _, hleft, _, _, _, hlast⟩ := habandoned
  obtain ⟨pool, hloop⟩ := running_of_open hopen
  obtain ⟨_, hserved, _⟩ := hpool pool hloop
  refine ⟨⟨pool, hloop, hserved, ?_⟩, ?_, ?_, ?_, ⟨hfinished, ?_, ?_, ?_, ?_⟩, hgone, ?_, ?_⟩
  · rw [hserved, htaken]
    decide +kernel
  · rw [hreplies [messages[0]] 0 (messages.drop 2) haccepted, htaken, if_pos (by decide)]
    decide +kernel
  · rw [hreplies (messages.take 3) 1 (messages.drop 4) haccepted, htaken, if_pos (by decide)]
    decide +kernel
  · rw [hreplies (messages.take 5) 2 [] haccepted, htaken, if_pos (by decide)]
    decide +kernel
  · obtain ⟨⟨cause, hended, _⟩, _⟩ := hend (closed_of_finished hfinished)
    have hcause := hended.cause_eq
    rw [hall, if_pos (by simp)] at hcause
    exact hcause ▸ hended
  · rw [(hlost messages [.stats 3] hall).2 3 List.mem_cons_self, if_pos hfinished]
  · exact (hfinal hfinished _).1.accepted
  · exact congrArg Snapshot.picker (hfinal hfinished _).2.1
  · obtain ⟨⟨cause, hended, _⟩, _⟩ := hleft (closed_of_finished hgone)
    have hcause := hended.cause_eq
    rw [if_neg hnone] at hcause
    exact hcause ▸ hended
  · exact congrArg Snapshot.picker (hlast hgone []).2.1

end StickyRouting.Exchange
