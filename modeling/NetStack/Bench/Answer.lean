import NetStack.Kernel
import NetStack.Syscall

/-!
# What is seen on a bench

The answers of the operations that a bench runs on a stack, and the registers that are looked at
after each of them.
-/

namespace NetStack.Bench

/-- The registers that are looked at after each operation. -/
structure Status where
  tdh : UInt32
  tdt : UInt32
  rdh : UInt32
  rdt : UInt32
  icr : UInt32
  deriving DecidableEq, Repr

/-- The registers of a device that are looked at. -/
def Status.ofDevice {β : Type} [Device β] (bus : β) : Status where
  tdh := Device.peek bus .tdh
  tdt := Device.peek bus .tdt
  rdh := Device.peek bus .rdh
  rdt := Device.peek bus .rdt
  icr := Device.peek bus .icr

/-- Why an operation failed. -/
inductive Failure where
  | transmit (error : TransmitError)
  | send (error : SendError)
  | errno (error : Errno)
  deriving DecidableEq, Repr

/-- The answer of an operation. -/
inductive Answer where
  | ok
  | failed (failure : Failure)
  /-- What the device answered to a control. -/
  | device (response : Response)
  | flag (b : Bool)
  | word (value : UInt32)
  | words (values : List UInt32)
  | count (n : Nat)
  /-- What a system call returned. -/
  | code (n : Int)
  /-- The call was told to stop. -/
  | stopped
  | mac (mac : Mac)
  | stats (stats : Stats)
  | frame (bytes : Bytes)
  | datagram (datagram : Datagram)
  /-- A transmit descriptor, its address counted from slot 0's, and the start of its buffer. -/
  | txSlot (descriptor : TxDescriptor) (data : Bytes)
  /-- A receive descriptor, its address counted from slot 0's, and the start of its buffer. -/
  | rxSlot (descriptor : RxDescriptor) (data : Bytes)
  /-- How many bytes were read, and the caller's buffer afterwards. -/
  | read (count : Nat) (buffer : Bytes)
  /-- What a read call returned, and the caller's buffer afterwards. -/
  | sysRead (code : Int) (buffer : Bytes)
  /-- What a receive call returned, and what the caller has afterwards. -/
  | sysReceive (code : Int) (received : Syscall.Received)
  /-- The states of a socket, one after another. -/
  | sockets (states : List Socket)
  /-- The configuration registers of a slot. -/
  | function (f : Pci.Function)
  /-- The bench has no such operation. -/
  | unsupported

/-- The answer of an operation on sockets. -/
def Answer.ofErrno {α : Type} (onOk : α → Answer) : Except Errno α → Answer
  | .ok a => onOk a
  | .error errno => .failed (.errno errno)

end NetStack.Bench
