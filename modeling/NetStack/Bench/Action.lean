import NetStack.Bench.Answer

/-!
# Actions

What can be done on a bench without waiting: handling the device from its own side, looking at
registers and descriptors, driver and transport operations, socket operations and system calls.
-/

namespace NetStack.Bench

/-- An operation that never waits. -/
inductive Action where
  /-- Handles the device from its own side. -/
  | control (control : Control)
  /-- A datagram for the host, or for `dst`, comes in from the line. -/
  | injectDatagram (dst : Option Ipv4) (datagram : Datagram)
  /-- A station on the line asks for a hardware address. -/
  | injectRequest (senderMac : Mac) (senderIp targetIp : Ipv4)
  /-- Looks at a register. -/
  | peek (reg : Reg)
  /-- Looks at several registers. -/
  | peekAll (regs : List Reg)
  /-- The device puts data into a receive buffer and reports a length and a status. -/
  | fillRx (slot : Fin Host.rxRingSize) (length : UInt16) (status : UInt8) (data : Bytes)
  /-- The device reports a status in a transmit descriptor. -/
  | markTx (slot : Fin Host.txRingSize) (status : UInt8)
  /-- Looks at a transmit slot and the first bytes of its buffer. -/
  | lookTx (slot : Fin Host.txRingSize) (count : Nat)
  /-- Looks at a receive slot and the first bytes of its buffer. -/
  | lookRx (slot : Fin Host.rxRingSize) (count : Nat)
  | interrupt
  | wake
  | macAddress
  | stats
  | transmit (frame : Bytes)
  /-- Offers a frame to the host's ARP responder. -/
  | handleArp (frame : Bytes)
  | send (dst : Ipv4) (dport sport : UInt16) (payload : Bytes)
  | socket
  | bind (fd : Nat) (port : UInt16)
  | connect (fd : Nat) (ip : Ipv4) (port : UInt16)
  | openConnected (ip : Ipv4) (remotePort localPort : UInt16)
  | close (fd : Nat)
  | write (fd : Nat) (payload : Bytes)
  /-- The states of a socket outside the table: new, then bound, then connected. -/
  | plainSocket (localPort : UInt16) (ip : Ipv4) (remotePort : UInt16)
  | sysSend (dst dport sport : UInt32) (buffer : Bytes)
  | sysConnect (address localPort remotePort : UInt32)
  | sysWrite (fd : Int) (buffer : Bytes)
  | sysClose (fd : Int)
  /-- Looks at the configuration registers of a slot of the bus. -/
  | pciState (slot : Fin Pci.slotCount)
  /-- Boots the kernel again, and tells whether the stack in use is still the first one. -/
  | reboot
  /-- Whether the kernel has a stack. -/
  | installed
  deriving DecidableEq, Repr

variable {β : Type} [Device β]

/-- The frame of a datagram from the gateway to the host. -/
def incoming (transport : Transport β) (dst : Option Ipv4) (datagram : Datagram) : Bytes :=
  let frame := Udp.frame (dst.getD transport.localIp) datagram.dport datagram.src datagram.sport
    datagram.payload
  Ethernet.setAddresses frame transport.localMac transport.gateway

/-- Handles the device of a stack from its own side. -/
def runControl (stack : Stack β) (control : Control) : Logged (Response × Stack β) := do
  let adapter := stack.adapter
  let (response, bus, tx, rx) ← Device.control adapter.bus adapter.tx adapter.rx control
  pure (response, stack.withAdapter { adapter with bus, tx, rx })

/-- Whether two base registers hold the address of a table. -/
def pointsAt (bus : β) (low high : Reg) (table : UInt64) : Bool :=
  (Device.peek bus low).toNat + (Device.peek bus high).toNat * UInt32.size == table.toNat

/-- The stack after the device has changed the receive ring that its base registers point to. -/
def changeRx (stack : Stack β) (change : RxRing → RxRing) : Stack β :=
  let adapter := stack.adapter
  if pointsAt adapter.bus .rdbal .rdbah adapter.rx.tableBus then
    stack.withAdapter { adapter with rx := change adapter.rx }
  else stack

/-- The stack after the device has changed the transmit ring that its base registers point to. -/
def changeTx (stack : Stack β) (change : TxRing → TxRing) : Stack β :=
  let adapter := stack.adapter
  if pointsAt adapter.bus .tdbal .tdbah adapter.tx.tableBus then
    stack.withAdapter { adapter with tx := change adapter.tx }
  else stack

/-- A transmit slot as it is shown. -/
def showTx (ring : TxRing) (slot : Fin Host.txRingSize) (count : Nat) : Answer :=
  let descriptor := ring.descriptor slot
  let start := (ring.descriptor ⟨0, Host.txRingSize_pos⟩).address
  .txSlot { descriptor with address := descriptor.address - start }
    ((ring.buffer slot).first count)

/-- A receive slot as it is shown. -/
def showRx (ring : RxRing) (slot : Fin Host.rxRingSize) (count : Nat) : Answer :=
  let descriptor := ring.descriptor slot
  let start := (ring.descriptor ⟨0, Host.rxRingSize_pos⟩).address
  .rxSlot { descriptor with address := descriptor.address - start }
    ((ring.buffer slot).first count)

/-- The answer of an operation that changes the sockets only if it succeeds. -/
def settle (stack : Stack β) : Except Errno (Stack β) → Answer × Stack β
  | .ok stack => (.ok, stack)
  | .error errno => (.failed (.errno errno), stack)

/-- Runs an action on a stack. -/
def act (action : Action) (stack : Stack β) : Logged (Answer × Stack β) :=
  match action with
  | .control control => do
    let (response, stack) ← runControl stack control
    pure (.device response, stack)
  | .injectDatagram dst datagram => do
    let (response, stack) ←
      runControl stack (.inject (incoming stack.transport dst datagram))
    pure (.device response, stack)
  | .injectRequest senderMac senderIp targetIp => do
    let (response, stack) ←
      runControl stack (.inject (ArpFrame.request senderMac senderIp targetIp))
    pure (.device response, stack)
  | .peek reg => pure (.word (Device.peek stack.adapter.bus reg), stack)
  | .peekAll regs => pure (.words (regs.map (Device.peek stack.adapter.bus)), stack)
  | .fillRx slot length status data =>
    pure (.ok, changeRx stack fun ring =>
      (ring.load slot data).setDescriptor slot { ring.descriptor slot with length, status })
  | .markTx slot status =>
    pure (.ok, changeTx stack fun ring =>
      ring.setDescriptor slot { ring.descriptor slot with status })
  | .lookTx slot count => pure (showTx stack.adapter.tx slot count, stack)
  | .lookRx slot count => pure (showRx stack.adapter.rx slot count, stack)
  | .interrupt => do
    let adapter ← stack.adapter.interrupt
    pure (.ok, stack.withAdapter adapter)
  | .wake => pure (.ok, stack.wake)
  | .macAddress => pure (.mac stack.adapter.mac, stack)
  | .stats => pure (.stats stack.adapter.stats, stack)
  | .transmit frame => do
    let (outcome, adapter) ← stack.adapter.transmit frame
    let stack := stack.withAdapter adapter
    match outcome with
    | .ok () => pure (.ok, stack)
    | .error error => pure (.failed (.transmit error), stack)
  | .handleArp frame => do
    let (isArp, adapter) ← stack.transport.responder.handle stack.adapter frame
    pure (.flag isArp, stack.withAdapter adapter)
  | .send dst dport sport payload => do
    let (outcome, transport) ← stack.transport.send dst dport sport payload
    let stack := { stack with transport }
    match outcome with
    | .ok () => pure (.ok, stack)
    | .error error => pure (.failed (.send error), stack)
  | .socket =>
    match stack.socket with
    | .ok (fd, stack) => pure (.count fd, stack)
    | .error errno => pure (.failed (.errno errno), stack)
  | .bind fd port => pure (settle stack (stack.bind fd port))
  | .connect fd ip port => pure (settle stack (stack.connect fd ip port))
  | .openConnected ip remotePort localPort => do
    let (outcome, stack) ← stack.openConnected ip remotePort localPort
    pure (Answer.ofErrno .count outcome, stack)
  | .close fd => pure (settle stack (stack.close fd))
  | .write fd payload => do
    let (outcome, stack) ← stack.write fd payload
    pure (Answer.ofErrno .count outcome, stack)
  | .plainSocket localPort ip remotePort =>
    let bound := Socket.fresh.bind localPort
    -- this socket is in no table
    pure (.sockets [Socket.fresh, bound, bound.connect ip remotePort], stack)
  | .sysSend dst dport sport buffer => do
    let (code, stack) ← Syscall.send stack dst dport sport buffer
    pure (.code code, stack)
  | .sysConnect address localPort remotePort => do
    let (code, stack) ← Syscall.connect stack address localPort remotePort
    pure (.code code, stack)
  | .sysWrite fd buffer => do
    let (code, stack) ← Syscall.write stack fd buffer
    pure (.code code, stack)
  | .sysClose fd =>
    let (code, stack) := Syscall.close stack fd
    pure (.code code, stack)
  | .pciState _ | .reboot | .installed => pure (.unsupported, stack)

end NetStack.Bench
