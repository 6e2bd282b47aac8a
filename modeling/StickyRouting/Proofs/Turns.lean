import StickyRouting.Proofs.Exchange

/-!
# Turns of the loop

A turn takes one message out of the queue, or notices that none will come any more.  Each kind of
turn is described here by the exchange that it leaves.  A turn whose actions take effect with
nothing in between is one of the balancer alone.
-/

namespace StickyRouting.Exchange

variable {exchange : Exchange} {pool : Pool} {rest : List Message}

/-- What the loop notes at its first turn. -/
def opening (exchange : Exchange) : List Action :=
  if exchange.balancer.started then [] else [.note .loopStarted]

theorem take_event {event : Event} (hloop : exchange.balancer.loop = .running pool)
    (hqueue : exchange.balancer.queue = .event event :: rest) (answer : Answer) :
    exchange.take answer =
      { exchange with
        balancer :=
          { exchange.balancer with
            loop := .running (pool.handle event answer).pool
            queue := rest
            started := true }
        pending := exchange.opening ++ (pool.handle event answer).actions
        taken := exchange.taken ++ [(.event event, answer)] } := by
  simp only [take, Balancer.turn, hloop, Balancer.takeMessage, hqueue, Balancer.applyEvent,
    Bool.false_and, Bool.false_eq_true, if_false, Option.toList_none, List.append_nil]
  rfl

theorem take_stats {ticket : Nat} (hloop : exchange.balancer.loop = .running pool)
    (hqueue : exchange.balancer.queue = .stats ticket :: rest) (answer : Answer) :
    exchange.take answer =
      { exchange with
        balancer := { exchange.balancer with queue := rest, started := true }
        pending := exchange.opening
        replies := exchange.replies ++ [(ticket, pool.stats)]
        taken := exchange.taken ++ [(.stats ticket, answer)] } := by
  simp only [take, Balancer.turn, hloop, Balancer.takeMessage, hqueue, List.append_nil]
  rfl

theorem take_close (hloop : exchange.balancer.loop = .running pool)
    (hqueue : exchange.balancer.queue = .close :: rest) (answer : Answer) :
    exchange.take answer =
      { exchange with
        balancer := { exchange.balancer with loop := .closed, queue := [], started := true }
        pending := exchange.opening ++ (pool.close ++ [.note .balancerClosed])
        taken := exchange.taken ++ [(.close, answer)] } := by
  simp only [take, Balancer.turn, hloop, Balancer.takeMessage, hqueue, Balancer.stop,
    Option.toList_none, List.append_nil]
  rfl

theorem take_abandoned (hloop : exchange.balancer.loop = .running pool)
    (hqueue : exchange.balancer.queue = []) (hhandles : exchange.balancer.handles = 0)
    (answer : Answer) :
    exchange.take answer =
      { exchange with
        balancer := { exchange.balancer with loop := .closed, queue := [], started := true }
        pending := exchange.opening ++ (pool.close ++ [.note .loopAbandoned]) } := by
  simp only [take, Balancer.turn, hloop, Balancer.takeMessage, hqueue, hhandles, if_true,
    Balancer.stop, Option.toList_none, List.append_nil, List.head?_nil, List.map_nil]
  rfl

theorem take_nothing (hloop : exchange.balancer.loop = .running pool)
    (hqueue : exchange.balancer.queue = []) (hhandles : exchange.balancer.handles ≠ 0)
    (answer : Answer) :
    exchange.take answer =
      { exchange with
        balancer := { exchange.balancer with started := true }
        pending := exchange.opening } := by
  simp only [take, Balancer.turn, hloop, Balancer.takeMessage, hqueue, if_neg hhandles,
    Option.toList_none, List.append_nil, List.head?_nil, List.map_nil]
  rfl

/-- A turn of a balancer writes to the board what its actions write. -/
theorem board_turn (balancer : Balancer) (answer : Answer) :
    (balancer.turn { answer }).balancer.board =
      balancer.board.applyAll (balancer.turn { answer }).actions := by
  have hnote (actions : List Action) :
      balancer.board.applyAll ((if balancer.started then [] else [.note .loopStarted]) ++ actions) =
        balancer.board.applyAll actions := by
    split <;> rfl
  cases hloop : balancer.loop with
  | closed | crashed =>
      simp only [Balancer.turn, hloop]
      rfl
  | running pool =>
      simp only [Balancer.turn, hloop, hnote]
      simp only [Balancer.takeMessage]
      split
      · rfl
      · rfl
      · simp only [Balancer.stop, Board.applyAll, List.foldl_append]
        rfl
      · split
        · simp only [Balancer.stop, Board.applyAll, List.foldl_append]
          rfl
        · rfl

theorem run_acts (exchange : Exchange) {pending : List Action}
    (hpending : exchange.pending = pending) :
    exchange.run (List.replicate pending.length .act) =
      { exchange.write (exchange.balancer.board.applyAll pending) with
        pending := []
        actions := exchange.actions ++ pending } := by
  induction pending generalizing exchange with
  | nil =>
      have hsame : { exchange with pending := [] } = exchange := by rw [← hpending]
      rw [List.append_nil]
      exact hsame.symm
  | cons action rest ih =>
      have hact : exchange.step .act =
          { exchange.write (exchange.balancer.board.apply action) with
            pending := rest
            actions := exchange.actions ++ [action] } := by
        rw [step, act, hpending]
      have hrest := ih (exchange.step .act) (by rw [hact])
      rw [List.length_cons, List.replicate_succ]
      refine Eq.trans hrest ?_
      rw [hact, List.append_assoc]
      rfl

/-- A turn whose actions take effect with nothing in between is a turn of the balancer. -/
theorem run_turn (hopen : exchange.balancer.isOpen = true) (hidle : exchange.pending = [])
    (answer : Answer) :
    let turn := exchange.balancer.turn { answer }
    (exchange.run (.turn answer :: List.replicate turn.actions.length .act)).balancer =
      turn.balancer := by
  intro turn
  have htake : exchange.step (.turn answer) = exchange.take answer := by
    rw [step, hopen, hidle]
    rfl
  have hacts := (exchange.take answer).run_acts rfl
  have hboard : turn.balancer.board = exchange.balancer.board.applyAll turn.actions :=
    board_turn exchange.balancer answer
  calc
    (exchange.run (.turn answer :: List.replicate turn.actions.length .act)).balancer =
        ((exchange.step (.turn answer)).run
          (List.replicate turn.actions.length .act)).balancer := rfl
    _ = ((exchange.take answer).run (List.replicate turn.actions.length .act)).balancer := by
      rw [htake]
    _ = { turn.balancer with board := exchange.balancer.board.applyAll turn.actions } :=
      congrArg balancer hacts
    _ = turn.balancer := by rw [← hboard]

end StickyRouting.Exchange
