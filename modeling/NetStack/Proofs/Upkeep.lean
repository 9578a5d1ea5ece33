import NetStack.Proofs.Calls
import NetStack.Proofs.Transmit

/-!
# What all operations keep

Whoever sends, takes, completes or waits keeps the transmit ring linked to the card, and leaves the
addresses of the host as they were set up. `Upkeep` says so of a driver and of a transport, and
`upkeep_act`, `upkeep_enter` and `upkeep_resume` of every regular action and every call. At every
moment of a run it is therefore the number of pending descriptors alone that decides whether the
card takes a frame, and ARP requests are answered for the same address.
-/

namespace NetStack

namespace Adapter

/-- A driver before and after an operation that keeps its transmit ring linked to the card, and its
hardware address. -/
structure Upkeep (adapter next : Adapter Emulated) : Prop where
  linked : adapter.TxLinked → next.TxLinked
  mac : next.mac = adapter.mac

theorem Upkeep.refl (adapter : Adapter Emulated) : adapter.Upkeep adapter :=
  ⟨fun h => h, rfl⟩

theorem Upkeep.trans {a b c : Adapter Emulated} (h : a.Upkeep b) (h' : b.Upkeep c) : a.Upkeep c :=
  ⟨fun hlinked => h'.linked (h.linked hlinked), h'.mac.trans h.mac⟩

/-- What leaves the transmit side alone. -/
theorem Upkeep.of_sameTx {adapter next : Adapter Emulated} (h : adapter.SameTx next) :
    adapter.Upkeep next :=
  ⟨fun hlinked => hlinked.of_sameTx h, h.mac⟩

/-- A transmission, taken or refused. -/
theorem upkeep_transmit (adapter : Adapter Emulated) (frame : Bytes) :
    adapter.Upkeep (adapter.transmit frame).value.2 := by
  refine ⟨fun h => ?_, (adapter.sameRx_transmit frame).mac⟩
  rcases hvalue : (adapter.transmit frame).value with ⟨outcome, next⟩
  cases h.transmit_spec hvalue with
  | tooLong => exact h
  | full => exact h
  | taken _ hlinked => exact hlinked

/-- Answering a frame. -/
theorem upkeep_handle (responder : Responder) (adapter : Adapter Emulated) (frame : Bytes) :
    adapter.Upkeep (responder.handle adapter frame).value.2 := by
  unfold Responder.handle
  split
  · exact Upkeep.refl adapter
  · split
    · exact adapter.upkeep_transmit _
    · exact Upkeep.refl adapter

end Adapter

namespace Transport

/-- A transport before and after an operation that keeps its driver up, and the host's address. -/
structure Upkeep (transport next : Transport Emulated) : Prop where
  adapter : transport.adapter.Upkeep next.adapter
  localIp : next.localIp = transport.localIp

theorem Upkeep.refl (transport : Transport Emulated) : transport.Upkeep transport :=
  ⟨Adapter.Upkeep.refl _, rfl⟩

theorem Upkeep.trans {a b c : Transport Emulated} (h : a.Upkeep b) (h' : b.Upkeep c) :
    a.Upkeep c :=
  ⟨h.adapter.trans h'.adapter, h'.localIp.trans h.localIp⟩

/-- What changes nothing. -/
theorem Upkeep.of_eq {transport next : Transport Emulated} (h : next = transport) :
    transport.Upkeep next := by
  rw [h]
  exact Upkeep.refl transport

/-- What keeps the driver up. -/
theorem Upkeep.of_adapter {transport : Transport Emulated} {adapter : Adapter Emulated}
    (h : transport.adapter.Upkeep adapter) : transport.Upkeep { transport with adapter } :=
  ⟨h, rfl⟩

/-- A host that is kept up answers ARP requests for the same address. -/
theorem Upkeep.responder_eq {transport next : Transport Emulated} (h : transport.Upkeep next) :
    next.responder = transport.responder := by
  unfold responder localMac
  rw [h.localIp, h.adapter.mac]

/-- Sending a datagram. -/
theorem upkeep_send (transport : Transport Emulated) (dst : Ipv4) (dport sport : UInt16)
    (payload : Bytes) : transport.Upkeep (transport.send dst dport sport payload).value.2 := by
  unfold send
  simp only
  split
  · exact Upkeep.refl transport
  · simp only [Logged.value_bind]
    split
    · exact .of_adapter (Adapter.upkeep_transmit _ _)
    · exact .of_adapter (Adapter.upkeep_transmit _ _)

/-- Dealing with a frame. -/
theorem upkeep_dispatch (transport : Transport Emulated) (frame : Bytes) (capacity : Nat) :
    transport.Upkeep (transport.dispatch frame capacity).value.2 := by
  have h := Adapter.upkeep_handle transport.responder transport.adapter frame
  simp only [dispatch, Logged.value_bind]
  split
  · exact .of_adapter h
  · split
    · exact .of_adapter h
    · exact .of_adapter h

/-- Taking frames up to a datagram. -/
theorem upkeep_receiveUntil (transport : Transport Emulated) (capacity : Nat) (stop : Stop) :
    transport.Upkeep (transport.receiveUntil capacity stop).value.2.2 := by
  have hframe {transport : Transport Emulated} {stop rest : Stop} {progress : Progress Bytes}
      {adapter : Adapter Emulated}
      (h : (transport.adapter.waitFrame stop).value = (progress, rest, adapter)) :
      transport.Upkeep { transport with adapter } := by
    have hsame := transport.adapter.sameTx_waitFrame stop
    rw [h] at hsame
    exact .of_adapter (.of_sameTx hsame)
  fun_induction receiveUntil transport capacity stop with
  | case1 _ _ _ _ _ hvalue => exact hframe hvalue
  | case2 _ _ _ _ _ hvalue => exact hframe hvalue
  | case3 transport stop _ frame _ adapter hvalue _ _ datagram _ hnext =>
    have hdispatch := upkeep_dispatch { transport with adapter } frame capacity
    rw [hnext] at hdispatch
    exact (hframe hvalue).trans hdispatch
  | case4 transport stop _ frame _ adapter hvalue _ _ _ hnext _ ih =>
    have hdispatch := upkeep_dispatch { transport with adapter } frame capacity
    rw [hnext] at hdispatch
    exact ((hframe hvalue).trans hdispatch).trans ih

end Transport

/-- Reading from a port. -/
theorem Stack.upkeep_receiveOn (stack : Stack Emulated) (port : UInt16) :
    stack.transport.Upkeep (stack.receiveOn port).value.2.transport := by
  have hreceive {transport next : Transport Emulated} {rest : Stop} {progress : Progress Datagram}
      (h : (transport.receiveUntil Host.frameCapacity .never).value = (progress, rest, next)) :
      transport.Upkeep next := by
    have hupkeep := transport.upkeep_receiveUntil Host.frameCapacity .never
    rw [h] at hupkeep
    exact hupkeep
  fun_induction receiveOn stack port with
  | case1 => exact Transport.Upkeep.refl _
  | case2 _ _ _ _ _ hvalue => exact hreceive hvalue
  | case3 _ _ _ _ _ hvalue => exact hreceive hvalue
  | case4 _ _ _ _ _ _ hvalue => exact hreceive hvalue
  | case5 stack _ _ datagram _ transport hvalue _ _ _ ih =>
    have hpark : transport.Upkeep
        (Stack.park { stack with transport } datagram).value.transport := by
      unfold park
      simp only
      split
      · exact .of_adapter (.of_sameTx (Adapter.sameTx_wake _))
      · exact Transport.Upkeep.refl _
    exact ((hreceive hvalue).trans hpark).trans ih

namespace Bench

/-- Handling the card from its own side, apart from its registers. -/
theorem upkeep_runControl (stack : Stack Emulated) {control : Control}
    (hregular : (Action.control control).Regular) :
    stack.transport.Upkeep (runControl stack control).value.2.transport := by
  have hcard (bus : Emulated) (tx : TxRing) (rx : RxRing)
      (h : stack.adapter.TxLinked → bus.TxLinked tx) :
      stack.transport.Upkeep (stack.withAdapter { stack.adapter with bus, tx, rx }).transport :=
    ⟨⟨h, rfl⟩, rfl⟩
  cases control with
  | inject frame =>
    exact hcard _ _ _ fun h => Emulated.TxLinked.of_sameTx h (Emulated.sameTx_inject _ _ _)
  | autoComplete on => exact hcard _ _ _ fun h => Emulated.TxLinked.of_line h _ _
  | complete count => exact hcard _ _ _ fun h => (Emulated.TxLinked.sends_complete h count).2.linked
  | takeSent => exact hcard _ _ _ fun h => Emulated.TxLinked.of_line h _ _
  | interruptPending => exact Transport.Upkeep.refl _
  | takeTrace => exact Transport.Upkeep.refl _
  | read reg => exact hregular.elim
  | store reg value => exact hregular.elim

/-- A frame from the line. -/
theorem upkeep_inject (stack : Stack Emulated) (frame : Bytes) :
    stack.transport.Upkeep (runControl stack (.inject frame)).value.2.transport :=
  upkeep_runControl stack trivial

/-- Sending from a socket. -/
theorem upkeep_write (stack : Stack Emulated) (fd : Nat) (payload : Bytes) :
    stack.transport.Upkeep (stack.write fd payload).value.2.transport := by
  unfold Stack.write
  split
  · exact Transport.Upkeep.refl _
  · simp only [Logged.value_bind]
    split
    · exact stack.transport.upkeep_send _ _ _ _
    · exact stack.transport.upkeep_send _ _ _ _
  · exact Transport.Upkeep.refl _

/-- What is done to sockets alone. -/
theorem upkeep_settle {stack : Stack Emulated} {outcome : Except Errno (Stack Emulated)}
    (h : ∀ changed, outcome = .ok changed → changed.transport = stack.transport) :
    stack.transport.Upkeep (settle stack outcome).2.transport := by
  cases outcome with
  | error errno => exact Transport.Upkeep.refl _
  | ok changed => exact .of_eq (h changed rfl)

/-- Changing an open socket leaves the transport as it is. -/
theorem transport_of_modify {stack changed : Stack Emulated} {fd : Nat} {change : Socket → Socket}
    (h : (do
      let table ← stack.table.modify fd change
      return { stack with table }) = Except.ok changed) : changed.transport = stack.transport := by
  cases hmodify : stack.table.modify fd change with
  | error errno =>
    rw [hmodify] at h
    cases h
  | ok table =>
    rw [hmodify] at h
    cases h
    rfl

/-- Closing a socket leaves the transport as it is. -/
theorem transport_of_close {stack closed : Stack Emulated} {fd : Nat}
    (h : stack.close fd = .ok closed) : closed.transport = stack.transport := by
  unfold Stack.close at h
  cases hremove : stack.table.remove fd with
  | error errno =>
    rw [hremove] at h
    cases h
  | ok removed =>
    rw [hremove] at h
    cases h
    rfl

/-- Opening a bound and connected socket. -/
theorem upkeep_openConnected (stack : Stack Emulated) (ip : Ipv4) (remotePort localPort : UInt16) :
    stack.transport.Upkeep (stack.openConnected ip remotePort localPort).value.2.transport := by
  unfold Stack.openConnected
  split <;> exact Transport.Upkeep.refl _

/-- Every regular action. -/
theorem upkeep_act (stack : Stack Emulated) {action : Action} (hregular : action.Regular) :
    stack.transport.Upkeep (act action stack).value.2.transport := by
  cases action with
  | control control => exact upkeep_runControl stack hregular
  | injectDatagram dst datagram => exact upkeep_inject stack _
  | injectRequest senderMac senderIp targetIp => exact upkeep_inject stack _
  | fillRx => exact hregular.elim
  | markTx => exact hregular.elim
  | interrupt => exact .of_adapter (.of_sameTx stack.adapter.sameTx_interrupt)
  | wake => exact .of_adapter (.of_sameTx stack.adapter.sameTx_wake)
  | transmit frame =>
    simp only [act, Logged.value_bind]
    split
    · exact .of_adapter (stack.adapter.upkeep_transmit frame)
    · exact .of_adapter (stack.adapter.upkeep_transmit frame)
  | handleArp frame => exact .of_adapter (Adapter.upkeep_handle _ _ _)
  | send dst dport sport payload =>
    simp only [act, Logged.value_bind]
    split
    · exact stack.transport.upkeep_send _ _ _ _
    · exact stack.transport.upkeep_send _ _ _ _
  | socket =>
    simp only [act, Stack.socket]
    cases stack.table.add Socket.fresh <;> exact Transport.Upkeep.refl _
  | bind fd port => exact upkeep_settle fun _ => transport_of_modify
  | connect fd ip port => exact upkeep_settle fun _ => transport_of_modify
  | openConnected ip remotePort localPort => exact upkeep_openConnected stack _ _ _
  | close fd => exact upkeep_settle fun _ => transport_of_close
  | write fd payload => exact upkeep_write stack _ _
  | sysSend dst dport sport buffer =>
    simp only [act, Syscall.send, Logged.value_bind]
    split
    · exact Transport.Upkeep.refl _
    · exact stack.transport.upkeep_send _ _ _ _
  | sysConnect address localPort remotePort =>
    simp only [act, Syscall.connect, Logged.value_bind]
    split
    · exact Transport.Upkeep.refl _
    · exact upkeep_openConnected stack _ _ _
  | sysWrite fd buffer =>
    simp only [act, Syscall.write, Logged.value_bind]
    split
    · exact Transport.Upkeep.refl _
    · exact upkeep_write stack _ _
  | sysClose fd =>
    simp only [act, Syscall.close]
    split
    · exact Transport.Upkeep.refl _
    · split
      · exact Transport.Upkeep.refl _
      · next hclose => exact .of_eq (transport_of_close hclose)
  | _ => exact Transport.Upkeep.refl _

/-- Every call, whenever it runs. -/
theorem upkeep_resume (stack : Stack Emulated) (waiting : Waiting) :
    stack.transport.Upkeep (resume waiting stack).value.2.transport := by
  cases waiting with
  | frame stop => exact .of_adapter (.of_sameTx (stack.adapter.sameTx_waitFrame stop))
  | datagram capacity stop => exact stack.transport.upkeep_receiveUntil capacity stop
  | sysReceive received => exact stack.transport.upkeep_receiveUntil _ _
  | port port reader => exact stack.upkeep_receiveOn port

/-- Every call when it is entered. -/
theorem upkeep_enter (stack : Stack Emulated) (call : Call) :
    stack.transport.Upkeep (enter call stack).value.2.transport := by
  unfold enter
  split
  · exact Transport.Upkeep.refl _
  · exact upkeep_resume stack _

/-- Every regular move. -/
theorem upkeep_of_legal {event : Event} {sleeping : List (Sleeper Waiting)}
    (hregular : event.Regular) (hlegal : (stackSystem Emulated).Legal sleeping event) :
    event.before.transport.Upkeep event.after.transport := by
  obtain ⟨before, move, after⟩ := event
  refine hlegal.relates (fun before after => before.transport.Upkeep after.transport)
    (fun action answer hmove => ?_) (upkeep_enter before) (upkeep_resume before)
    (Transport.Upkeep.refl _)
  subst hmove
  exact upkeep_act before hregular

/-- At every moment of a run, the transmit ring is linked to the card. -/
theorem Reachable.txLinked {stack : Stack Emulated} (h : Reachable stack) :
    stack.adapter.TxLinked := by
  obtain ⟨auto, addresses, start, steps, past, hstart, hpast, hregular, rfl⟩ := h
  obtain ⟨start', hstart', hsetUp, -, -⟩ := exists_setUp auto addresses
  rw [hstart'] at hstart
  cases hstart
  exact System.Path.invariant (fun stack => stack.adapter.TxLinked) (System.journalAll_path hpast)
    hsetUp.txLinked fun event hevent _ hlegal hlinked =>
      (upkeep_of_legal (hregular event hevent) hlegal).adapter.linked hlinked

end Bench

end NetStack
