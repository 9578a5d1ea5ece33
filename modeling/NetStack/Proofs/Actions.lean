import NetStack.Bench.Run
import NetStack.Proofs.Sockets

/-!
# What actions do to a stack

Senders, the card's own side, interrupts, wake-ups and socket operations as one relation. `Acts`
says what an action leaves of the stored frames, of the interrupt cause and of the queues: frames
only come in at the end, and then the cause is raised; a queue stays as it is, unless its port has
no socket any more. `act_spec` gives it for every action that does not reach past the driver and the
card into their registers and descriptors.
-/

namespace NetStack.Bench

/-- An action is regular if it goes through the driver or the card: it accesses no register with
side effects, and writes no descriptor and no buffer. -/
def Action.Regular : Action → Prop
  | control (.read _) => False
  | control (.store _ _) => False
  | fillRx _ _ _ _ => False
  | markTx _ _ => False
  | _ => True

/-- Whether the answer says that a frame came in and was not dropped. -/
def Answer.accepts : Answer → Bool
  | device (.flag accepted) => accepted
  | _ => false

/-- The frame that an action puts on the line. -/
def Action.onLine? (stack : Stack Emulated) : Action → Option Bytes
  | control (.inject frame) => some frame
  | injectDatagram dst datagram => some (incoming stack.transport dst datagram)
  | injectRequest senderMac senderIp targetIp =>
    some (ArpFrame.request senderMac senderIp targetIp)
  | _ => none

/-- The frames that come in with an action: the one on the line, unless it is dropped. -/
def arriving (stack : Stack Emulated) (action : Action) (answer : Answer) : List Bytes :=
  if answer.accepts then (action.onLine? stack).toList else []

/-- The interrupt cause of reception, as far as it is raised. -/
def cause (stack : Stack Emulated) : UInt32 :=
  stack.adapter.bus.registers.icr &&& Bits.causeReceived

/-- A stack before and after an action with which the given frames came in. -/
structure Acts (arriving : List Bytes) (stack next : Stack Emulated) : Prop where
  linked : next.adapter.RxLinked
  stored : next.adapter.stored = stack.adapter.stored ++ arriving
  /-- A frame that comes in raises the cause; otherwise the cause stays as it is, or all are woken.
  -/
  cause : cause next ≠ 0 ∨ arriving = [] ∧ (cause next = cause stack ∨
    next.adapter.arrival.generation ≠ stack.adapter.arrival.generation)
  /-- Those that wait are woken at most once. -/
  broadcasts : (next.adapter.arrival.generation - stack.adapter.arrival.generation).toNat ≤ 1
  /-- A queue stays as it is, unless its port has no socket any more. -/
  queue : ∀ port, next.backlog.queue port = stack.backlog.queue port ∨
    next.backlog.queue port = [] ∧ next.table.isBound port = false

/-- Those that wait as they did are not woken. -/
theorem broadcasts_of_arrival {stack next : Stack Emulated}
    (h : next.adapter.arrival = stack.adapter.arrival) (count : Nat) :
    (next.adapter.arrival.generation - stack.adapter.arrival.generation).toNat ≤ count := by
  rw [h, UInt64.sub_self]
  exact Nat.zero_le count

/-- A broadcast wakes those that wait once. -/
theorem broadcasts_broadcast (condition : Condition) :
    (condition.broadcast.generation - condition.generation).toNat = 1 := by
  show (condition.generation + 1 - condition.generation).toNat = 1
  rw [UInt64.add_comm, UInt64.add_sub_cancel]
  rfl

/-- An action that leaves the receive side, the sockets and the queues alone. -/
theorem Acts.of_sameRx {stack next : Stack Emulated} (h : stack.adapter.RxLinked)
    (hsame : stack.adapter.SameRx next.adapter) (hbacklog : next.backlog = stack.backlog) :
    Acts [] stack next where
  linked := h.of_sameRx hsame
  stored := hsame.stored_eq.trans (List.append_nil _).symm
  cause := .inr ⟨rfl, .inl hsame.card.received⟩
  broadcasts := broadcasts_of_arrival hsame.arrival 1
  queue := fun port => .inl (by rw [hbacklog])

/-- An action that changes nothing. -/
theorem Acts.refl {stack : Stack Emulated} (h : stack.adapter.RxLinked) : Acts [] stack stack :=
  .of_sameRx h (Adapter.SameRx.refl _) rfl

/-- A frame from the line. -/
theorem Acts.of_inject {stack next : Stack Emulated} {frame : Bytes} {response : Response}
    (h : stack.adapter.RxLinked)
    (hvalue : (runControl stack (.inject frame)).value = (response, next)) :
    Acts (if (Answer.device response).accepts then [frame] else []) stack next := by
  by_cases htaken : frame.length ≤ Host.rxBufferSize ∧
      stack.adapter.bus.filled stack.adapter.last + 1 < Host.rxRingSize
  · have hinject := Emulated.RxLinked.inject_of_room h htaken.1 htaken.2
    simp only [runControl, Device.control, Emulated.control, Logged.value_bind, hinject] at hvalue
    cases hvalue
    exact ⟨Emulated.RxLinked.arrived h htaken.1 htaken.2,
      stack.adapter.bus.stored_arrived _ _ htaken.1 htaken.2,
      .inl (Bits.or_causeReceived_and_ne_zero _),
      broadcasts_of_arrival rfl 1, fun _ => .inl rfl⟩
  · have hinject := Emulated.RxLinked.inject_of_refused h htaken
    simp only [runControl, Device.control, Emulated.control, Logged.value_bind, hinject] at hvalue
    cases hvalue
    exact Acts.refl h

/-- Everything else that is done from the card's own side leaves the receive side alone. -/
theorem sameRx_runControl (stack : Stack Emulated) {control : Control}
    (hregular : (Action.control control).Regular) (hinject : ∀ frame, control ≠ .inject frame) :
    stack.adapter.SameRx (runControl stack control).value.2.adapter := by
  have hsame (bus : Emulated) (tx : TxRing) (hcard : stack.adapter.bus.SameRx bus) :
      stack.adapter.SameRx { stack.adapter with bus, tx } :=
    ⟨hcard, rfl, rfl, rfl, rfl, rfl, rfl, rfl⟩
  cases control with
  | inject frame => exact absurd rfl (hinject frame)
  | autoComplete on => exact hsame _ _ ⟨rfl, rfl, rfl, rfl, rfl⟩
  | complete count => exact hsame _ _ (Emulated.sameRx_complete _ _ _)
  | takeSent => exact hsame _ _ ⟨rfl, rfl, rfl, rfl, rfl⟩
  | interruptPending => exact hsame _ _ (Emulated.SameRx.refl _)
  | takeTrace => exact hsame _ _ (Emulated.SameRx.refl _)
  | read reg => exact hregular.elim
  | store reg value => exact hregular.elim

/-- An answered interrupt wakes everyone. -/
theorem Acts.of_interrupt {stack : Stack Emulated} (h : stack.adapter.RxLinked) :
    Acts [] stack (stack.withAdapter stack.adapter.interrupt.value) where
  linked := h.interrupt.1
  stored := h.interrupt.2.trans (List.append_nil _).symm
  cause := .inr ⟨rfl, .inr (Condition.generation_broadcast_ne _)⟩
  broadcasts := Nat.le_of_eq (broadcasts_broadcast _)
  queue := fun _ => .inl rfl

/-- A wake-up leaves everything but the condition alone. -/
theorem Acts.of_wake {stack : Stack Emulated} (h : stack.adapter.RxLinked) :
    Acts [] stack stack.wake where
  linked := h
  stored := (List.append_nil _).symm
  cause := .inr ⟨rfl, .inl rfl⟩
  broadcasts := Nat.le_of_eq (broadcasts_broadcast _)
  queue := fun _ => .inl rfl

/-- Sending a datagram leaves the receive side alone. -/
theorem sameRx_send (transport : Transport Emulated) (dst : Ipv4) (dport sport : UInt16)
    (payload : Bytes) :
    transport.adapter.SameRx (transport.send dst dport sport payload).value.2.adapter := by
  simp only [Transport.send]
  split
  · exact Adapter.SameRx.refl _
  · simp only [Logged.value_bind]
    split
    · exact Adapter.sameRx_transmit _ _
    · exact Adapter.sameRx_transmit _ _

/-- Sending from a socket leaves the receive side and the queues alone. -/
theorem Acts.of_write {stack : Stack Emulated} (h : stack.adapter.RxLinked) (fd : Nat)
    (payload : Bytes) : Acts [] stack (stack.write fd payload).value.2 := by
  unfold Stack.write
  split
  · exact Acts.refl h
  · next localPort remote _ =>
    have hsame := sameRx_send stack.transport remote.ip remote.port localPort payload
    simp only [Logged.value_bind]
    split
    · exact .of_sameRx h hsame rfl
    · exact .of_sameRx h hsame rfl
  · exact Acts.refl h

/-- A changed table leaves everything else alone. -/
theorem Acts.of_table {stack : Stack Emulated} (h : stack.adapter.RxLinked) (table : SocketTable) :
    Acts [] stack { stack with table } :=
  .of_sameRx h (Adapter.SameRx.refl _) rfl

/-- Opening a bound and connected socket only changes the table. -/
theorem Acts.of_openConnected {stack : Stack Emulated} (h : stack.adapter.RxLinked) (ip : Ipv4)
    (remotePort localPort : UInt16) :
    Acts [] stack (stack.openConnected ip remotePort localPort).value.2 := by
  unfold Stack.openConnected
  split
  · exact Acts.refl h
  · exact Acts.of_table h _

/-- Closing a socket empties the queue of its port, if that has no socket any more. -/
theorem Acts.of_close {stack next : Stack Emulated} (h : stack.adapter.RxLinked) {fd : Nat}
    (hclose : stack.close fd = .ok next) : Acts [] stack next := by
  unfold Stack.close at hclose
  cases hremove : stack.table.remove fd with
  | error errno =>
    rw [hremove] at hclose
    cases hclose
  | ok removed =>
    obtain ⟨socket, table⟩ := removed
    rw [hremove] at hclose
    cases hclose
    refine ⟨h, (List.append_nil _).symm, .inr ⟨rfl, .inl rfl⟩,
      broadcasts_of_arrival rfl 1, fun port => ?_⟩
    cases hport : socket.localPort with
    | none => exact .inl rfl
    | some closed =>
      -- another socket on the same port keeps its queue
      by_cases hbound : table.isBound closed = true
      · simp only [hbound, if_true]
        exact .inl trivial
      · have hdiscard := stack.backlog.queue_discard closed port
        simp only [hbound]
        by_cases heq : port = closed
        · rw [if_pos heq] at hdiscard
          exact .inr ⟨hdiscard, by rw [heq]; exact Bool.eq_false_iff.2 hbound⟩
        · rw [if_neg heq] at hdiscard
          exact .inl hdiscard

/-- What an operation on sockets does that changes them only if it succeeds. -/
theorem Acts.of_settle {stack : Stack Emulated} (h : stack.adapter.RxLinked)
    {outcome : Except Errno (Stack Emulated)}
    (hok : ∀ changed, outcome = .ok changed → Acts [] stack changed) :
    Acts [] stack (settle stack outcome).2 := by
  cases outcome with
  | error errno => exact Acts.refl h
  | ok changed => exact hok changed rfl

/-- What changing an open socket does. -/
theorem Acts.of_modify {stack : Stack Emulated} (h : stack.adapter.RxLinked) (fd : Nat)
    (change : Socket → Socket) :
    Acts [] stack (settle stack (do
      let table ← stack.table.modify fd change
      return { stack with table })).2 := by
  cases stack.table.modify fd change with
  | error errno => exact Acts.refl h
  | ok table => exact Acts.of_table h table

/-- Opening a socket only changes the table. -/
theorem Acts.of_socket {stack next : Stack Emulated} (h : stack.adapter.RxLinked) {fd : Nat}
    (hsocket : stack.socket = .ok (fd, next)) : Acts [] stack next := by
  unfold Stack.socket at hsocket
  cases hadd : stack.table.add Socket.fresh with
  | error errno =>
    rw [hadd] at hsocket
    cases hsocket
  | ok added =>
    rw [hadd] at hsocket
    cases hsocket
    exact Acts.of_table h _

/-- What an action does with which no frame is put on the line. -/
theorem Acts.of_offLine {stack : Stack Emulated} (h : stack.adapter.RxLinked) {action : Action}
    (hregular : action.Regular) (hline : action.onLine? stack = none) :
    Acts [] stack (act action stack).value.2 := by
  cases action with
  | control control =>
    refine .of_sameRx h (sameRx_runControl stack hregular ?_) rfl
    rintro frame rfl
    cases hline
  | injectDatagram => cases hline
  | injectRequest => cases hline
  | fillRx => exact hregular.elim
  | markTx => exact hregular.elim
  | interrupt => exact Acts.of_interrupt h
  | wake => exact Acts.of_wake h
  | transmit frame =>
    have hsame := stack.adapter.sameRx_transmit frame
    simp only [act, Logged.value_bind]
    split
    · exact .of_sameRx h hsame rfl
    · exact .of_sameRx h hsame rfl
  | handleArp frame => exact .of_sameRx h (Adapter.sameRx_handle _ _ _) rfl
  | send dst dport sport payload =>
    have hsame := sameRx_send stack.transport dst dport sport payload
    simp only [act, Logged.value_bind]
    split
    · exact .of_sameRx h hsame rfl
    · exact .of_sameRx h hsame rfl
  | socket =>
    simp only [act]
    split
    · next fd opened hsocket => exact Acts.of_socket h hsocket
    · exact Acts.refl h
  | bind fd port => exact Acts.of_modify h fd _
  | connect fd ip port => exact Acts.of_modify h fd _
  | openConnected ip remotePort localPort => exact Acts.of_openConnected h ip remotePort localPort
  | close fd => exact Acts.of_settle h fun changed hclose => Acts.of_close h hclose
  | write fd payload => exact Acts.of_write h fd payload
  | sysSend dst dport sport buffer =>
    simp only [act, Syscall.send, Logged.value_bind]
    split
    · exact Acts.refl h
    · exact .of_sameRx h (sameRx_send _ _ _ _ _) rfl
  | sysConnect address localPort remotePort =>
    simp only [act, Syscall.connect, Logged.value_bind]
    split
    · exact Acts.refl h
    · exact Acts.of_openConnected h _ _ _
  | sysWrite fd buffer =>
    simp only [act, Syscall.write, Logged.value_bind]
    split
    · exact Acts.refl h
    · exact Acts.of_write h _ _
  | sysClose fd =>
    simp only [act, Syscall.close]
    split
    · exact Acts.refl h
    · split
      · exact Acts.refl h
      · next hclose => exact Acts.of_close h hclose
  | _ => exact Acts.refl h

/-- What every regular action does. -/
theorem act_spec {stack next : Stack Emulated} {action : Action} {answer : Answer}
    (h : stack.adapter.RxLinked) (hregular : action.Regular)
    (hvalue : (act action stack).value = (answer, next)) :
    Acts (arriving stack action answer) stack next := by
  cases hline : action.onLine? stack with
  | none =>
    have harriving : arriving stack action answer = [] := by
      unfold arriving
      rw [hline]
      exact ite_self _
    have hnext : next = (act action stack).value.2 := by rw [hvalue]
    rw [harriving, hnext]
    exact Acts.of_offLine h hregular hline
  | some frame =>
    cases action with
    | control control =>
      cases control with
      | inject frame =>
        cases hvalue
        exact Acts.of_inject h rfl
      | _ => cases hline
    | injectDatagram dst datagram =>
      cases hvalue
      exact Acts.of_inject h rfl
    | injectRequest senderMac senderIp targetIp =>
      cases hvalue
      exact Acts.of_inject h rfl
    | _ => cases hline

end NetStack.Bench
