import NetStack.Errno
import NetStack.Frame.Udp
import NetStack.Responder

/-!
# Datagrams over a card

Sending puts a datagram into a frame for the gateway and hands it to the card; a failure is reported
and the datagram is lost. Receiving takes frames from the card until one carries a datagram: ARP
frames go to the responder, and frames that do not decode are dropped. `ready_lt_of_receiveUntil`
says that every received datagram leaves the ring emptier.
-/

namespace NetStack

/-- Why a datagram is not sent. -/
inductive SendError where
  /-- No frame can be built for it. -/
  | encode (error : FrameError)
  /-- The card refuses the frame. -/
  | transmit (error : TransmitError)
  deriving DecidableEq, Repr

namespace SendError

/-- The cause in words. -/
def message : SendError → String
  | encode error => s!"encode failed: {error.message}"
  | transmit error => s!"transmit failed: {error.message}"

/-- The error number that a system call reports: a full ring may be tried again, everything else is
a message that is too long. -/
def errno : SendError → Errno
  | transmit .ringFull => .tryAgain
  | encode _ => .messageTooLong
  | transmit (.frameTooLarge _ _) => .messageTooLong

end SendError

/-- A card together with the addresses that datagrams are sent from and to. -/
structure Transport (β : Type) where
  adapter : Adapter β
  localIp : Ipv4
  gateway : Mac

namespace Transport

variable {β : Type} [RegisterBus β]

/-- A transport with the host's address and gateway. -/
def ofAdapter (adapter : Adapter β) : Transport β where
  adapter := adapter
  localIp := Host.ip
  gateway := Host.gateway

/-- The hardware address of the host. -/
def localMac (transport : Transport β) : Mac :=
  transport.adapter.mac

/-- Who answers ARP requests. -/
def responder (transport : Transport β) : Responder where
  ip := transport.localIp
  mac := transport.localMac

/-- The number of received frames that are in the ring. -/
def ready (transport : Transport β) : Nat :=
  transport.adapter.ready

/-- Sends a datagram, or says why it is lost. -/
def send (transport : Transport β) (dst : Ipv4) (dport sport : UInt16) (payload : Bytes) :
    Logged (Except SendError Unit × Transport β) := do
  let blank := List.replicate Host.frameCapacity 0
  match Udp.encode blank dst dport transport.localIp sport payload with
  | .error error =>
    Logged.note .debug s!"udp: {payload.length} byte payload not encoded: {error.message}"
    pure (.error (.encode error), transport)
  | .ok (length, buffer) =>
    let frame := Ethernet.setAddresses (buffer.take length) transport.gateway transport.localMac
    let (outcome, adapter) ← transport.adapter.transmit frame
    match outcome with
    | .error error => pure (.error (.transmit error), { transport with adapter })
    | .ok () =>
      Logged.note .debug s!"udp: sent {dst}:{dport.toNat} <- :{sport.toNat} len={payload.length}"
      pure (.ok (), { transport with adapter })

/-- Deals with a received frame: the answer is its datagram, if it carries one. -/
def dispatch (transport : Transport β) (frame : Bytes) (capacity : Nat) :
    Logged (Option Datagram × Transport β) := do
  let (isArp, adapter) ← transport.responder.handle transport.adapter frame
  let transport := { transport with adapter }
  if isArp then
    pure (none, transport)
  else
    match Udp.receive frame capacity with
    | .ok datagram =>
      let source := s!"{datagram.src}:{datagram.sport.toNat}"
      Logged.note .debug
        s!"udp: received {source} -> :{datagram.dport.toNat} len={datagram.payload.length}"
      pure (some datagram, transport)
    | .error error =>
      Logged.note .debug s!"udp: dropped {frame.length} byte frame: {error.message}"
      pure (none, transport)

/-- Dealing with a frame leaves the receive ring alone. -/
@[simp] theorem ready_dispatch (transport : Transport β) (frame : Bytes) (capacity : Nat) :
    (transport.dispatch frame capacity).value.2.ready = transport.ready := by
  have h := transport.responder.rx_handle transport.adapter frame
  simp only [dispatch, Logged.value_bind]
  split
  · exact congrArg RxRing.ready h
  · split <;> exact congrArg RxRing.ready h

/-- Takes frames from the card until one carries a datagram of at most `capacity` bytes. Before each
look at the ring the caller is asked whether to stop; without a frame the call has to wait. -/
def receiveUntil (transport : Transport β) (capacity : Nat) (stop : Stop) :
    Logged (Progress Datagram × Stop × Transport β) :=
  let received := transport.adapter.waitFrame stop
  match hframe : received.value with
  | (.stopped, rest, adapter) =>
    ⟨(.stopped, rest, { transport with adapter }), received.records⟩
  | (.waiting, rest, adapter) =>
    ⟨(.waiting, rest, { transport with adapter }), received.records⟩
  | (.done frame, rest, adapter) =>
    let dispatched := { transport with adapter }.dispatch frame capacity
    let records := received.records ++ dispatched.records
    match hnext : dispatched.value with
    | (some datagram, next) => ⟨(.done datagram, rest, next), records⟩
    | (none, next) =>
      have : next.ready < transport.ready := by
        have heq := ready_dispatch { transport with adapter } frame capacity
        rw [hnext] at heq
        exact heq ▸ Adapter.ready_lt_of_waitFrame hframe
      (next.receiveUntil capacity rest).after records
termination_by transport.ready

/-- A received datagram leaves the ring emptier. -/
theorem ready_lt_of_receiveUntil {transport next : Transport β} {capacity : Nat} {stop rest : Stop}
    {datagram : Datagram}
    (h : (transport.receiveUntil capacity stop).value = (.done datagram, rest, next)) :
    next.ready < transport.ready := by
  fun_induction receiveUntil transport capacity stop with
  | case1 => cases h
  | case2 => cases h
  | case3 transport _ _ frame _ adapter hframe _ _ _ _ hnext =>
    cases h
    have heq := ready_dispatch { transport with adapter } frame capacity
    rw [hnext] at heq
    exact heq ▸ Adapter.ready_lt_of_waitFrame hframe
  | case4 _ _ _ _ _ _ _ _ _ _ _ hlt ih => exact Nat.lt_trans (ih h) hlt

/-- Wakes all calls that wait for a datagram. -/
def wake (transport : Transport β) : Transport β :=
  { transport with adapter := transport.adapter.wake }

end Transport

end NetStack
