import NetStack.Nic.Register

/-!
# Descriptors

A descriptor of sixteen bytes tells the card where a buffer lies and carries the card's report on
it. The `done` bit of its status says whose it is: a transmit descriptor with the bit set is free
for the driver, a receive descriptor with the bit set holds a frame.
-/

namespace NetStack

/-- The size of a descriptor in bytes. -/
def descriptorSize : Nat := 16

/-- A descriptor of the transmit ring. -/
structure TxDescriptor where
  /-- Where the card finds the frame. -/
  address : UInt64
  length : UInt16
  checksumOffset : UInt8
  command : UInt8
  status : UInt8
  checksumStart : UInt8
  special : UInt16
  deriving DecidableEq, Repr

/-- A descriptor of the receive ring. -/
structure RxDescriptor where
  /-- Where the card puts the frame. -/
  address : UInt64
  /-- The length of the frame that the card put there. -/
  length : UInt16
  checksum : UInt16
  status : UInt8
  errors : UInt8
  special : UInt16
  deriving DecidableEq, Repr

/-- What the two kinds of descriptors have in common. -/
class Descriptor (δ : Type) where
  /-- The descriptor that a ring starts with, pointing to the given address. -/
  armed : UInt64 → δ
  /-- The address that a descriptor points to. -/
  address : δ → UInt64

/-- Whether a status has its done bit set. -/
def isDone (status : UInt8) : Bool :=
  status &&& Bits.statusDone != 0

namespace TxDescriptor

/-- A free descriptor: its last transmission counts as done. -/
def armed (address : UInt64) : TxDescriptor where
  address := address
  length := 0
  checksumOffset := 0
  command := 0
  status := Bits.statusDone
  checksumStart := 0
  special := 0

instance : Descriptor TxDescriptor := ⟨armed, address⟩

/-- Whether the descriptor is free for the driver. -/
def done (descriptor : TxDescriptor) : Bool :=
  isDone descriptor.status

/-- The descriptor with a frame of the given length handed to the card. -/
def submit (descriptor : TxDescriptor) (length : Nat) : TxDescriptor :=
  { armed descriptor.address with
    length := UInt16.ofNat length
    command := Bits.commandEndOfPacket ||| Bits.commandReport
    status := 0 }

/-- The descriptor as the card hands it back. -/
def complete (descriptor : TxDescriptor) : TxDescriptor :=
  { descriptor with status := descriptor.status ||| Bits.statusDone }

end TxDescriptor

namespace RxDescriptor

/-- A descriptor that waits for a frame. -/
def armed (address : UInt64) : RxDescriptor where
  address := address
  length := 0
  checksum := 0
  status := 0
  errors := 0
  special := 0

instance : Descriptor RxDescriptor := ⟨armed, address⟩

/-- Whether the descriptor holds a frame. -/
def done (descriptor : RxDescriptor) : Bool :=
  isDone descriptor.status

/-- The descriptor as the card hands it over with a frame of the given length. -/
def deliver (descriptor : RxDescriptor) (length : Nat) : RxDescriptor :=
  { descriptor with
    length := UInt16.ofNat length
    status := Bits.statusDone ||| Bits.statusEndOfPacket }

/-- A waiting descriptor holds no frame. -/
@[simp] theorem done_armed (address : UInt64) : (armed address).done = false := by
  simp [done, armed, isDone]

end RxDescriptor

end NetStack
