import NetStack.Stack

/-!
# System calls

The arguments of a system call come as plain numbers and a buffer of at most a page. They are
checked before anything is done, in a fixed order, and an error is returned as its negated number.
What a call receives goes to the start of the caller's buffer and is cut to its length.
-/

namespace NetStack.Syscall

/-- Refuses a buffer longer than a page. -/
def checkLength (buffer : Bytes) : Except Errno Unit :=
  if Host.pageSize < buffer.length then .error .invalidArgument else .ok ()

/-- The port of an argument. -/
def checkPort (value : UInt32) : Except Errno UInt16 :=
  if value.toNat < 65536 then .ok (UInt16.ofNat value.toNat) else .error .invalidArgument

/-- The descriptor of an argument. -/
def checkDescriptor (value : Int) : Except Errno Nat :=
  if value < 0 then .error .badFileNumber else .ok value.toNat

/-- What a receiving call copies of a payload: how many bytes, and the caller's buffer afterwards.
-/
def copyOut (payload buffer : Bytes) : Nat × Bytes :=
  let count := min payload.length buffer.length
  (count, payload.take count ++ buffer.drop count)

variable {β : Type} [RegisterBus β]

/-- The checked arguments of a send call: destination port and source port. -/
def sendArguments (dport sport : UInt32) (buffer : Bytes) : Except Errno (UInt16 × UInt16) := do
  checkLength buffer
  let dport ← checkPort dport
  let sport ← checkPort sport
  return (dport, sport)

/-- Sends a datagram without a socket. -/
def send (stack : Stack β) (dst dport sport : UInt32) (buffer : Bytes) :
    Logged (Int × Stack β) :=
  match sendArguments dport sport buffer with
  | .error errno => pure (errno.negated, stack)
  | .ok (dport, sport) => do
    let (outcome, transport) ← stack.transport.send (Ipv4.ofWord dst) dport sport buffer
    let sent := outcome.mapError SendError.errno
    pure (Errno.result (sent.map fun _ => buffer.length), { stack with transport })

/-- Opens a bound and connected socket. -/
def connect (stack : Stack β) (address localPort remotePort : UInt32) :
    Logged (Int × Stack β) :=
  let ports := do
    let localPort ← checkPort localPort
    let remotePort ← checkPort remotePort
    return (localPort, remotePort)
  match ports with
  | .error errno => pure (errno.negated, stack)
  | .ok (localPort, remotePort) => do
    let (outcome, stack) ← stack.openConnected (Ipv4.ofWord address) remotePort localPort
    pure (Errno.result outcome, stack)

/-- The checked descriptor of a call that takes a descriptor and a buffer. -/
def bufferArguments (fd : Int) (buffer : Bytes) : Except Errno Nat := do
  checkLength buffer
  checkDescriptor fd

/-- Sends a datagram from a socket. -/
def write (stack : Stack β) (fd : Int) (buffer : Bytes) : Logged (Int × Stack β) :=
  match bufferArguments fd buffer with
  | .error errno => pure (errno.negated, stack)
  | .ok fd => do
    let (outcome, stack) ← stack.write fd buffer
    pure (Errno.result outcome, stack)

/-- The port on which a read call receives. -/
def readPort (stack : Stack β) (fd : Int) (buffer : Bytes) : Except Errno UInt16 := do
  let fd ← bufferArguments fd buffer
  stack.portOf fd

/-- Closes a socket. -/
def close (stack : Stack β) (fd : Int) : Int × Stack β :=
  match checkDescriptor fd with
  | .error errno => (errno.negated, stack)
  | .ok fd =>
    match stack.close fd with
    | .error errno => (errno.negated, stack)
    | .ok stack => (0, stack)

/-- What a receive call without a socket hands to its caller: where the datagram came from, its
ports, and the caller's buffer. -/
structure Received where
  src : UInt32
  sport : UInt16
  dport : UInt16
  buffer : Bytes
  deriving DecidableEq, Repr

/-- What the caller has after a datagram was received, and how many bytes of it. -/
def Received.fill (received : Received) (datagram : Datagram) : Nat × Received :=
  let (count, buffer) := copyOut datagram.payload received.buffer
  (count, { src := datagram.src.toWord, sport := datagram.sport, dport := datagram.dport, buffer })

end NetStack.Syscall
