import NetStack.Bench.Answer
import NetStack.Wait.Schedule

/-!
# Calls

The operations that may have to wait. A call is entered once; what is left of it while it waits is a
`Waiting`, which is resumed when the call is woken. A read finds its port when it is entered, and
keeps it whatever happens to the socket while it waits.
-/

namespace NetStack.Bench

/-- An operation that may have to wait. -/
inductive Call where
  /-- Takes the next frame from the card. -/
  | frame (stop : Stop)
  /-- Takes the next datagram from the transport. -/
  | receive (capacity : Nat) (stop : Stop)
  /-- Takes the next datagram for a port. -/
  | receiveOn (port : UInt16)
  /-- Reads from a socket into a buffer. -/
  | read (fd : Nat) (buffer : Bytes)
  /-- The receive system call, with the buffer and what the caller has before it where the address
  and the ports go: zeros, unless they are given. -/
  | sysReceive (buffer : Bytes) (src : UInt32 := 0) (sport : UInt16 := 0) (dport : UInt16 := 0)
  /-- The read system call. -/
  | sysRead (fd : Int) (buffer : Bytes)
  deriving DecidableEq, Repr

/-- To whom a datagram for a port goes. -/
inductive Reader where
  /-- To a caller who takes it as it is. -/
  | plain
  /-- Into the buffer of a read. -/
  | buffer (buffer : Bytes)
  /-- Into the buffer of a read system call. -/
  | sysBuffer (buffer : Bytes)
  deriving DecidableEq, Repr

/-- What is left of a call that waits. -/
inductive Waiting where
  | frame (stop : Stop)
  | datagram (capacity : Nat) (stop : Stop)
  /-- A receive system call, with what its caller has so far. -/
  | sysReceive (received : Syscall.Received)
  | port (port : UInt16) (reader : Reader)
  deriving DecidableEq, Repr

/-- The answer of a call that has its datagram. -/
def Reader.answer (datagram : Datagram) : Reader → Answer
  | plain => .datagram datagram
  | buffer bytes =>
    let (count, bytes) := Syscall.copyOut datagram.payload bytes
    .read count bytes
  | sysBuffer bytes =>
    let (count, bytes) := Syscall.copyOut datagram.payload bytes
    .sysRead count bytes

/-- How far a call has come: its answer, or what is left of it. -/
def attemptOf {α : Type} (finish : α → Answer) (rest : Waiting) :
    Progress α → Attempt Answer Waiting
  | .done a => .finished (finish a)
  | .stopped => .finished .stopped
  | .waiting => .suspended rest

variable {β : Type} [Device β]

/-- Goes on with a call, from its start or after a wait. -/
def resume (waiting : Waiting) (stack : Stack β) : Logged (Attempt Answer Waiting × Stack β) :=
  match waiting with
  | .frame stop => do
    let (progress, stop, adapter) ← stack.adapter.waitFrame stop
    pure (attemptOf .frame (.frame stop) progress, stack.withAdapter adapter)
  | .datagram capacity stop => do
    let (progress, stop, transport) ← stack.transport.receiveUntil capacity stop
    pure (attemptOf .datagram (.datagram capacity stop) progress, { stack with transport })
  | .sysReceive received => do
    let (progress, _, transport) ← stack.transport.receiveUntil Host.pageSize .never
    let finish (datagram : Datagram) : Answer :=
      let (count, received) := received.fill datagram
      .sysReceive count received
    pure (attemptOf finish waiting progress, { stack with transport })
  | .port port reader => do
    let (progress, stack) ← stack.receiveOn port
    pure (attemptOf (reader.answer ·) waiting progress, stack)

/-- The call that is left when the arguments of a call are found right, or its answer if not. -/
def Call.check (stack : Stack β) : Call → Attempt Answer Waiting
  | frame stop => .suspended (.frame stop)
  | receive capacity stop => .suspended (.datagram capacity stop)
  | receiveOn port => .suspended (.port port .plain)
  | read fd buffer =>
    match stack.portOf fd with
    | .ok port => .suspended (.port port (.buffer buffer))
    | .error errno => .finished (.failed (.errno errno))
  | sysReceive buffer src sport dport =>
    let received : Syscall.Received := { src, sport, dport, buffer }
    match Syscall.checkLength buffer with
    | .ok () => .suspended (.sysReceive received)
    | .error errno => .finished (.sysReceive errno.negated received)
  | sysRead fd buffer =>
    match Syscall.readPort stack fd buffer with
    | .ok port => .suspended (.port port (.sysBuffer buffer))
    | .error errno => .finished (.sysRead errno.negated buffer)

/-- Checks the arguments of a call and runs it up to its first wait. -/
def enter (call : Call) (stack : Stack β) : Logged (Attempt Answer Waiting × Stack β) :=
  match call.check stack with
  | .finished answer => pure (.finished answer, stack)
  | .suspended waiting => resume waiting stack

end NetStack.Bench
