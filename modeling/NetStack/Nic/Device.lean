import NetStack.Log
import NetStack.Nic.Ring

/-!
# Register buses and devices

The driver reaches a card through a register bus. A read may change the device (the interrupt cause
is cleared by reading it). A write may make the device work on the transmit ring at once; the type
says that no register access touches the receive ring. A device can also be handled from its own
side: frames come in from the line, transmissions complete, and registers are looked at.
-/

namespace NetStack

/-- What the driver needs of a card. -/
class RegisterBus (β : Type) where
  /-- Reads a register. -/
  read : β → Reg → UInt32 × β
  /-- Writes a register. -/
  write : β → TxRing → Reg → UInt32 → Logged (β × TxRing)
  /-- Where the card sees an address of the host. -/
  busAddress : β → Nat → UInt64

/-- An access that the driver made. -/
structure Access where
  isWrite : Bool
  reg : Reg
  value : UInt32
  deriving DecidableEq, Repr

/-- What can be done to a device from its own side. -/
inductive Control where
  /-- A frame comes in from the line. -/
  | inject (frame : Bytes)
  /-- Whether transmissions complete as soon as they are handed over. -/
  | autoComplete (on : Bool)
  /-- Up to `count` transmissions complete. -/
  | complete (count : Nat)
  /-- The frames sent since the last time are taken from the line. -/
  | takeSent
  /-- Whether the interrupt line is active. -/
  | interruptPending
  /-- The accesses recorded since the last time are taken. -/
  | takeTrace
  /-- A register is read with the side effects that a read has. -/
  | read (reg : Reg)
  /-- A register is stored with the side effects that a store has on this device. -/
  | store (reg : Reg) (value : UInt32)
  deriving DecidableEq, Repr

/-- What a device answers to a control. -/
inductive Response where
  | ok
  | flag (b : Bool)
  | count (n : Nat)
  | word (value : UInt32)
  | frames (frames : List Bytes)
  | accesses (accesses : List Access)
  /-- The device cannot go on: its head counts in a table without slots. -/
  | fault
  /-- The device has no such control. -/
  | unsupported
  deriving DecidableEq, Repr

/-- A register bus whose device side is at hand. -/
class Device (β : Type) extends RegisterBus β where
  /-- The value of a register, without the side effects of a read. -/
  peek : β → Reg → UInt32
  /-- Handles the device from its own side. -/
  control : β → TxRing → RxRing → Control → Logged (Response × β × TxRing × RxRing)

end NetStack
