import StickyRouting.Balancer
import StickyRouting.Proofs.Moves

/-!
# Callers, pickers and the loop of a balancer

An exchange is a balancer together with all that goes on around it, in the smallest moves that
others can come between.  Callers send messages through handles, clone handles and drop them, pick
with pickers that they have kept, and settle their picks, which send events as well.  The loop takes
a message out of the queue, and what it then does to the outside takes effect one action at a time.
The channel answers requests for connections as it likes and does not fail.

The exchange keeps a record of the messages that the queue has accepted and of those that the loop
has taken, which the moves themselves never read.
-/

namespace StickyRouting

namespace Message

def event? : Message → Option Event
  | .event sent => some sent
  | .stats _ | .close => none

def ticket? : Message → Option Nat
  | .stats ticket => some ticket
  | .event _ | .close => none

end Message

structure Exchange where
  balancer : Balancer
  /-- What the loop has still to do for the message that it took last. -/
  pending : List Action := []
  actions : List Action := []
  /-- The counters that the loop has replied, by ticket. -/
  replies : List (Nat × Stats) := []
  held : List Pick := []
  accepted : List Message := []
  /-- The messages that the loop has taken, oldest first, each with the answer of the channel. -/
  taken : List (Message × Answer) := []

namespace Exchange

/-- One thing that can happen.  Whatever needs a handle happens only while there is one. -/
inductive Move where
  /-- An event is sent through a handle.  A picker that sends one has a handle of its own for as
  long as that takes. -/
  | send (event : Event)
  | stats
  | close
  /-- A call to close learns that the loop has ended. -/
  | await
  | clone
  | drop
  | pick (picker choice : Nat) (request : PickRequest)
  | settle (pick : Nat) (completion : Completion)
  /-- The loop takes the next message, once it has done everything for the one before. -/
  | turn (answer : Answer)
  | act

def start (config : Config) : Exchange :=
  { balancer := { loop := .running { config } } }

def published (exchange : Exchange) : List Picker :=
  Action.published exchange.actions

/-- Whether the loop has ended and nothing is left to do for it. -/
def finished (exchange : Exchange) : Bool :=
  !exchange.balancer.isOpen && exchange.pending.isEmpty

/-- What has come of a call for the counters, by its ticket.  The queue drops the call together
with the messages that the loop does not take. -/
def statsResult? (exchange : Exchange) (ticket : Nat) : Option (Except Error Stats) :=
  match exchange.replies.lookup ticket with
  | some stats => some (.ok stats)
  | none => if exchange.finished then some (.error .balancerClosed) else none

def offer (exchange : Exchange) (message : Message) : Exchange :=
  match exchange.balancer.send message with
  | .error _ => exchange
  | .ok balancer => { exchange with balancer, accepted := exchange.accepted ++ [message] }

def ask (exchange : Exchange) : Exchange :=
  match exchange.balancer.sendStats with
  | .error _ => exchange
  | .ok (ticket, balancer) =>
      { exchange with balancer, accepted := exchange.accepted ++ [.stats ticket] }

def deliver (exchange : Exchange) (events : List Event) : Exchange :=
  { exchange with
    balancer := exchange.balancer.deliver events
    accepted := exchange.accepted ++
      if exchange.balancer.isOpen && 0 < exchange.balancer.handles then events.map .event else [] }

/-- Has something else than the loop write to the board. -/
def write (exchange : Exchange) (board : Board) : Exchange :=
  { exchange with balancer := { exchange.balancer with board } }

/-- Takes over what a caller has done. -/
def follow (exchange : Exchange) (caller : CallerEffect) : Exchange :=
  { exchange.write caller.board with held := caller.held }.deliver caller.events

def pick (exchange : Exchange) (picker choice : Nat) (request : PickRequest) : Exchange :=
  exchange.follow
    (.pick exchange.published picker choice request exchange.balancer.board exchange.held)

def settle (exchange : Exchange) (index : Nat) (completion : Completion) : Exchange :=
  exchange.follow (.settle index completion exchange.balancer.board exchange.held)

/-- Has the loop take the next message.  The pool changes at once, and the actions wait. -/
def take (exchange : Exchange) (answer : Answer) : Exchange :=
  let step := exchange.balancer.turn { answer }
  { exchange with
    balancer := { step.balancer with board := exchange.balancer.board }
    pending := step.actions
    replies := exchange.replies ++ step.reply.toList
    taken := exchange.taken ++
      exchange.balancer.queue.head?.toList.map fun message => (message, answer) }

def act (exchange : Exchange) : Exchange :=
  match exchange.pending with
  | [] => exchange
  | action :: rest =>
      { exchange.write (exchange.balancer.board.apply action) with
        pending := rest
        actions := exchange.actions ++ [action] }

/-- The exchange after a move.  A move that cannot happen changes nothing. -/
def step (exchange : Exchange) (move : Move) : Exchange :=
  match move with
  | .send event =>
      if exchange.balancer.handles = 0 then exchange else exchange.offer (.event event)
  | .stats => if exchange.balancer.handles = 0 then exchange else exchange.ask
  | .close => if exchange.balancer.handles = 0 then exchange else exchange.offer .close
  | .await =>
      if exchange.finished then
        { exchange with
          balancer := exchange.balancer.awaitLoop.1
          actions := exchange.actions ++ exchange.balancer.awaitLoop.2 }
      else exchange
  | .clone =>
      if exchange.balancer.handles = 0 then exchange
      else { exchange with balancer := exchange.balancer.addHandle }
  | .drop => { exchange with balancer := exchange.balancer.dropHandle }
  | .pick picker choice request => exchange.pick picker choice request
  | .settle index completion => exchange.settle index completion
  | .turn answer =>
      if exchange.balancer.isOpen && exchange.pending.isEmpty then exchange.take answer
      else exchange
  | .act => exchange.act

def run (exchange : Exchange) (moves : List Move) : Exchange :=
  moves.foldl step exchange

variable {exchange : Exchange}

theorem running_of_open (hopen : exchange.balancer.isOpen = true) :
    ∃ pool, exchange.balancer.loop = .running pool := by
  rw [Balancer.isOpen] at hopen
  cases hloop : exchange.balancer.loop with
  | running pool => exact ⟨pool, rfl⟩
  | closed | crashed =>
      rw [hloop] at hopen
      cases hopen

/-- A queue that is closed takes nothing. -/
theorem refused_of_closed (hclosed : exchange.balancer.isOpen = false) :
    exchange.balancer.sendStats = .error .balancerClosed ∧
      ∀ message, exchange.balancer.send message = .error .balancerClosed := by
  have hrefused : ¬ { exchange.balancer with
      nextTicket := exchange.balancer.nextTicket + 1 }.isOpen = true := by
    rw [Bool.not_eq_true]
    exact hclosed
  refine ⟨?_, fun message => ?_⟩
  · rw [Balancer.sendStats, Balancer.send, if_neg hrefused]
    rfl
  · rw [Balancer.send, hclosed, if_neg Bool.false_ne_true]

/-! ## Moves that are not the loop's -/

/-- Whether an exchange goes on from another one without its loop: there may be new messages, which
the queue has accepted because it was open, but all else that the loop works on stays as it is. -/
structure Quiet (before after : Exchange) : Prop where
  loop : after.balancer.loop = before.balancer.loop
  started : after.balancer.started = before.balancer.started
  snapshot : after.balancer.board.snapshot = before.balancer.board.snapshot
  bindings : after.balancer.board.bindings = before.balancer.board.bindings
  pending : after.pending = before.pending
  actions : after.actions = before.actions
  replies : after.replies = before.replies
  taken : after.taken = before.taken
  handles : before.balancer.handles = 0 → after.balancer.handles = 0
  accepted : ∃ new, after.accepted = before.accepted ++ new ∧
    after.balancer.queue = before.balancer.queue ++ new ∧
    (before.balancer.isOpen = false → new = [])
  tickets :
    before.accepted.filterMap Message.ticket? = List.range before.balancer.nextTicket →
      after.accepted.filterMap Message.ticket? = List.range after.balancer.nextTicket

namespace Quiet

theorem refl (exchange : Exchange) : Quiet exchange exchange :=
  ⟨rfl, rfl, rfl, rfl, rfl, rfl, rfl, rfl, id,
    ⟨[], (List.append_nil _).symm, (List.append_nil _).symm, fun _ => rfl⟩, id⟩

theorem trans {before middle after : Exchange} (hfirst : Quiet before middle)
    (hsecond : Quiet middle after) : Quiet before after where
  loop := hsecond.loop.trans hfirst.loop
  started := hsecond.started.trans hfirst.started
  snapshot := hsecond.snapshot.trans hfirst.snapshot
  bindings := hsecond.bindings.trans hfirst.bindings
  pending := hsecond.pending.trans hfirst.pending
  actions := hsecond.actions.trans hfirst.actions
  replies := hsecond.replies.trans hfirst.replies
  taken := hsecond.taken.trans hfirst.taken
  handles := hsecond.handles ∘ hfirst.handles
  accepted := by
    obtain ⟨first, hfirstAccepted, hfirstQueue, hfirstOpen⟩ := hfirst.accepted
    obtain ⟨second, hsecondAccepted, hsecondQueue, hsecondOpen⟩ := hsecond.accepted
    refine ⟨first ++ second, ?_, ?_, fun hclosed => ?_⟩
    · rw [hsecondAccepted, hfirstAccepted, List.append_assoc]
    · rw [hsecondQueue, hfirstQueue, List.append_assoc]
    · have hstill : middle.balancer.isOpen = false := by
        rw [Balancer.isOpen, hfirst.loop]
        exact hclosed
      rw [hfirstOpen hclosed, hsecondOpen hstill, List.append_nil]
  tickets := hsecond.tickets ∘ hfirst.tickets

/-- A move that cannot happen changes nothing. -/
theorem ite {before after : Exchange} {impossible : Prop} [Decidable impossible]
    (hquiet : ¬ impossible → Quiet before after) :
    Quiet before (if impossible then before else after) := by
  split
  · exact .refl before
  · next hpossible => exact hquiet hpossible

end Quiet

/-- Messages other than calls for the counters, put into an open queue. -/
theorem quiet_admit (hopen : exchange.balancer.isOpen = true) {messages : List Message}
    (hmessages : messages.filterMap Message.ticket? = []) :
    Quiet exchange
      { exchange with
        balancer := { exchange.balancer with queue := exchange.balancer.queue ++ messages }
        accepted := exchange.accepted ++ messages } := by
  refine ⟨rfl, rfl, rfl, rfl, rfl, rfl, rfl, rfl, id, ⟨messages, rfl, rfl, ?_⟩, ?_⟩
  · intro hclosed
    rw [hopen] at hclosed
    cases hclosed
  · intro htickets
    rw [List.filterMap_append, hmessages, List.append_nil]
    exact htickets

theorem quiet_offer (exchange : Exchange) {message : Message} (hmessage : message.ticket? = none) :
    Quiet exchange (exchange.offer message) := by
  rw [offer, Balancer.send]
  cases hopen : exchange.balancer.isOpen with
  | false => exact .refl exchange
  | true => exact quiet_admit hopen (by simp [hmessage])

theorem ask_of_open (hopen : exchange.balancer.isOpen = true) :
    exchange.ask =
      { exchange with
        balancer :=
          { exchange.balancer with
            nextTicket := exchange.balancer.nextTicket + 1
            queue := exchange.balancer.queue ++ [.stats exchange.balancer.nextTicket] }
        accepted := exchange.accepted ++ [.stats exchange.balancer.nextTicket] } := by
  have htaken : { exchange.balancer with
      nextTicket := exchange.balancer.nextTicket + 1 }.isOpen = true := hopen
  rw [ask, Balancer.sendStats, Balancer.send, if_pos htaken]
  rfl

theorem ask_of_closed (hclosed : exchange.balancer.isOpen = false) : exchange.ask = exchange := by
  rw [ask, (refused_of_closed hclosed).1]

theorem quiet_ask (exchange : Exchange) : Quiet exchange exchange.ask := by
  cases hopen : exchange.balancer.isOpen with
  | false =>
      rw [ask_of_closed hopen]
      exact .refl exchange
  | true =>
      rw [ask_of_open hopen]
      refine ⟨rfl, rfl, rfl, rfl, rfl, rfl, rfl, rfl, id,
        ⟨[.stats exchange.balancer.nextTicket], rfl, rfl, ?_⟩, ?_⟩
      · intro hclosed
        rw [hopen] at hclosed
        cases hclosed
      · intro htickets
        rw [List.filterMap_append, htickets, List.range_succ]
        rfl

theorem quiet_deliver (exchange : Exchange) (events : List Event) :
    Quiet exchange (exchange.deliver events) := by
  rw [deliver, Balancer.deliver]
  split
  · next hopen =>
      refine quiet_admit (Bool.and_eq_true_iff.mp hopen).1 ?_
      rw [List.filterMap_map]
      exact List.filterMap_eq_nil_iff.mpr fun _ _ => rfl
  · rw [List.append_nil]
    exact .refl exchange

/-- A caller writes to the meters and to the marks of routers only. -/
theorem quiet_follow {caller : CallerEffect}
    (hfront : caller.board.snapshot = exchange.balancer.board.snapshot ∧
      caller.board.bindings = exchange.balancer.board.bindings) :
    Quiet exchange (exchange.follow caller) := by
  have hwrite : Quiet exchange { exchange.write caller.board with held := caller.held } :=
    ⟨rfl, rfl, hfront.1, hfront.2, rfl, rfl, rfl, rfl, id,
      ⟨[], (List.append_nil _).symm, (List.append_nil _).symm, fun _ => rfl⟩, id⟩
  exact hwrite.trans (quiet_deliver _ caller.events)

theorem quiet_handles (exchange : Exchange) {handles : Nat}
    (hhandles : exchange.balancer.handles = 0 → handles = 0) :
    Quiet exchange { exchange with balancer := { exchange.balancer with handles } } :=
  ⟨rfl, rfl, rfl, rfl, rfl, rfl, rfl, rfl, hhandles,
    ⟨[], (List.append_nil _).symm, (List.append_nil _).symm, fun _ => rfl⟩, id⟩

theorem quiet_await (exchange : Exchange) (halive : exchange.balancer.loop ≠ .crashed) :
    Quiet exchange (exchange.step .await) := by
  have hnotes : exchange.balancer.awaitLoop.2 = [] := by
    cases hloop : exchange.balancer.loop with
    | crashed => exact absurd hloop halive
    | running _ | closed => simp [Balancer.awaitLoop, hloop, Loop.isCrashed]
  rw [step, hnotes, List.append_nil]
  split
  · exact ⟨rfl, rfl, rfl, rfl, rfl, rfl, rfl, rfl, id,
      ⟨[], (List.append_nil _).symm, (List.append_nil _).symm, fun _ => rfl⟩, id⟩
  · exact .refl exchange

/-- A move goes on without the loop, has the loop take a message, or lets one of its actions take
effect. -/
theorem step_kinds (exchange : Exchange) (halive : exchange.balancer.loop ≠ .crashed)
    (move : Move) :
    Quiet exchange (exchange.step move) ∨
      (∃ pool answer, exchange.balancer.loop = .running pool ∧ exchange.pending = [] ∧
        exchange.step move = exchange.take answer) ∨
      exchange.step move = exchange.act := by
  cases move with
  | send event => exact .inl (.ite fun _ => exchange.quiet_offer rfl)
  | stats => exact .inl (.ite fun _ => exchange.quiet_ask)
  | close => exact .inl (.ite fun _ => exchange.quiet_offer rfl)
  | await => exact .inl (exchange.quiet_await halive)
  | clone =>
      exact .inl (.ite fun hhandles =>
        exchange.quiet_handles fun hnone => absurd hnone hhandles)
  | drop =>
      refine .inl (exchange.quiet_handles fun hnone => ?_)
      rw [hnone]
  | pick picker choice request => exact .inl (quiet_follow (CallerEffect.pick_front _ _ _ _ _ _))
  | settle index completion => exact .inl (quiet_follow (CallerEffect.settle_front _ _ _ _))
  | turn answer =>
      rw [step]
      split
      · next hready =>
          obtain ⟨hopen, hpending⟩ := Bool.and_eq_true_iff.mp hready
          obtain ⟨pool, hloop⟩ := running_of_open hopen
          exact .inr (.inl ⟨pool, answer, hloop, List.isEmpty_iff.mp hpending, rfl⟩)
      · exact .inl (.refl exchange)
  | act => exact .inr (.inr rfl)

end Exchange

end StickyRouting
