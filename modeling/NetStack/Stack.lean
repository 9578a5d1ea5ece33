import NetStack.Socket.Backlog
import NetStack.Socket.Table
import NetStack.Transport

/-!
# The socket layer

The stack joins a transport, the table of open sockets and the backlog. All readers share one
receive ring: a reader that takes a datagram for another port parks it there, if that port has a
socket, and wakes the other readers, which look at their own queue before they look at the ring.
-/

namespace NetStack

/-- A transport with its sockets. -/
structure Stack (β : Type) where
  transport : Transport β
  table : SocketTable
  backlog : Backlog

namespace Stack

variable {β : Type}

/-- A stack without sockets over a transport. -/
def ofTransport (transport : Transport β) : Stack β where
  transport := transport
  table := SocketTable.empty
  backlog := Backlog.empty

/-- The driver at the bottom of the stack. -/
def adapter (stack : Stack β) : Adapter β :=
  stack.transport.adapter

/-- The stack with its driver replaced. -/
def withAdapter (stack : Stack β) (adapter : Adapter β) : Stack β :=
  { stack with transport := { stack.transport with adapter } }

/-- The number of received frames that are in the ring. -/
def ready (stack : Stack β) : Nat :=
  stack.transport.ready

/-- Opens a socket that is neither bound nor connected; the answer is its descriptor. -/
def socket (stack : Stack β) : Except Errno (Nat × Stack β) := do
  let (fd, table) ← stack.table.add Socket.fresh
  return (fd, { stack with table })

/-- Binds a socket to a local port. -/
def bind (stack : Stack β) (fd : Nat) (port : UInt16) : Except Errno (Stack β) := do
  let table ← stack.table.modify fd (·.bind port)
  return { stack with table }

/-- Connects a socket to a remote address. -/
def connect (stack : Stack β) (fd : Nat) (ip : Ipv4) (port : UInt16) : Except Errno (Stack β) := do
  let table ← stack.table.modify fd (·.connect ip port)
  return { stack with table }

/-- Opens a socket that is bound and connected; the answer is its descriptor. -/
def openConnected (stack : Stack β) (ip : Ipv4) (remotePort localPort : UInt16) :
    Logged (Except Errno Nat × Stack β) := do
  match stack.table.add ((Socket.fresh.bind localPort).connect ip remotePort) with
  | .error errno => pure (.error errno, stack)
  | .ok (fd, table) =>
    let remote := s!"{ip}:{remotePort.toNat}"
    Logged.note .debug s!"udp: fd {fd} :{localPort.toNat} -> {remote}"
    pure (.ok fd, { stack with table })

/-- Closes a socket. When no other socket is bound to its port, the datagrams parked for the port
are discarded. -/
def close (stack : Stack β) (fd : Nat) : Except Errno (Stack β) := do
  let (socket, table) ← stack.table.remove fd
  let backlog := match socket.localPort with
    | none => stack.backlog
    | some port => if table.isBound port then stack.backlog else stack.backlog.discard port
  return { stack with table, backlog }

/-- Sends a payload from a bound and connected socket; the answer is its length. -/
def write [RegisterBus β] (stack : Stack β) (fd : Nat) (payload : Bytes) :
    Logged (Except Errno Nat × Stack β) :=
  match stack.table.get fd with
  | .error errno => pure (.error errno, stack)
  | .ok ⟨some localPort, some remote⟩ => do
    let (outcome, transport) ← stack.transport.send remote.ip remote.port localPort payload
    let stack := { stack with transport }
    match outcome with
    | .ok () => pure (.ok payload.length, stack)
    | .error error => pure (.error error.errno, stack)
  | .ok _ => pure (.error .notConnected, stack)

/-- The port that a socket receives on. -/
def portOf (stack : Stack β) (fd : Nat) : Except Errno UInt16 := do
  let socket ← stack.table.get fd
  match socket.localPort with
  | some port => .ok port
  | none => .error .invalidArgument

/-- The stack with all waiting readers woken. -/
def wake (stack : Stack β) : Stack β :=
  { stack with transport := stack.transport.wake }

/-- Hands a datagram over to the readers of its port; without a socket on the port it is lost. -/
def park (stack : Stack β) (datagram : Datagram) : Logged (Stack β) :=
  let port := datagram.dport
  if stack.table.isBound port then do
    Logged.noteIf (stack.backlog.isFull port) .debug
      s!"udp: backlog full on port {port.toNat}, oldest dropped"
    pure { stack with backlog := stack.backlog.park datagram }.wake
  else do
    Logged.note .debug s!"udp: no socket on port {port.toNat}, dropped"
    pure stack

/-- Parking leaves the receive ring alone. -/
theorem ready_park (stack : Stack β) (datagram : Datagram) :
    (stack.park datagram).value.ready = stack.ready := by
  simp only [park]
  split <;> rfl

/-- Takes the next datagram for a port: from the port's queue, or else from the ring, where
datagrams for other ports are parked on the way. While this runs nobody else parks anything, so the
queue is looked at once, before the ring; a call that waited starts over, and so looks at its queue
first. -/
def receiveOn [RegisterBus β] (stack : Stack β) (port : UInt16) :
    Logged (Progress Datagram × Stack β) :=
  match stack.backlog.take? port with
  | some (datagram, backlog) => pure (.done datagram, { stack with backlog })
  | none =>
    let received := stack.transport.receiveUntil Host.frameCapacity .never
    match hreceived : received.value with
    | (.stopped, _, transport) => ⟨(.stopped, { stack with transport }), received.records⟩
    | (.waiting, _, transport) => ⟨(.waiting, { stack with transport }), received.records⟩
    | (.done datagram, _, transport) =>
      if datagram.dport = port then
        ⟨(.done datagram, { stack with transport }), received.records⟩
      else
        -- another port's datagram: it is handed over, and the search starts again
        let parked := park { stack with transport } datagram
        have : parked.value.ready < stack.ready := by
          have heq := ready_park { stack with transport } datagram
          exact heq ▸ Transport.ready_lt_of_receiveUntil hreceived
        (parked.value.receiveOn port).after (received.records ++ parked.records)
termination_by stack.ready

end Stack

end NetStack
