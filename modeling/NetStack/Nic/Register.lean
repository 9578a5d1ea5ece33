import NetStack.Address

/-!
# Card registers

The registers of an Intel 8254x card that the driver uses, their places in the register window, the
bits that it sets in them, and a file of register values. `Registers.get_set` is the law of the
file: a write changes the register written and no other.
-/

namespace NetStack

/-- The number of words in the multicast table. -/
abbrev multicastWords : Nat := 128

/-- A register, under its name in the card's manual. -/
inductive Reg where
  /-- Interrupt cause; a read of the card clears it. -/
  | icr
  /-- Interrupt mask. -/
  | ims
  /-- Receive control. -/
  | rctl
  /-- Transmit control. -/
  | tctl
  /-- Transmit gap between packets. -/
  | tipg
  /-- Receive table address, low half. -/
  | rdbal
  /-- Receive table address, high half. -/
  | rdbah
  /-- Receive table length in bytes. -/
  | rdlen
  /-- Receive head: the next slot that the card fills. -/
  | rdh
  /-- Receive tail: the slot at which the card stops. -/
  | rdt
  /-- Receive delay timer. -/
  | rdtr
  /-- Receive absolute delay timer. -/
  | radv
  /-- Transmit table address, low half. -/
  | tdbal
  /-- Transmit table address, high half. -/
  | tdbah
  /-- Transmit table length in bytes. -/
  | tdlen
  /-- Transmit head: the next slot that the card sends. -/
  | tdh
  /-- Transmit tail: the slot at which the card stops. -/
  | tdt
  /-- A word of the multicast table. -/
  | mta (word : Fin multicastWords)
  /-- Receive address, low half. -/
  | ral
  /-- Receive address, high half. -/
  | rah
  deriving DecidableEq, Repr

namespace Reg

/-- The offset of a register in the register window, in bytes. -/
def offset : Reg → Nat
  | icr => 0x00C0
  | ims => 0x00D0
  | rctl => 0x0100
  | tctl => 0x0400
  | tipg => 0x0410
  | rdbal => 0x2800
  | rdbah => 0x2804
  | rdlen => 0x2808
  | rdh => 0x2810
  | rdt => 0x2818
  | rdtr => 0x2820
  | radv => 0x282C
  | tdbal => 0x3800
  | tdbah => 0x3804
  | tdlen => 0x3808
  | tdh => 0x3810
  | tdt => 0x3818
  | mta word => 0x5200 + 4 * word.val
  | ral => 0x5400
  | rah => 0x5404

end Reg

/-! The bits that the driver and the card set in control words, causes and descriptors. -/

namespace Bits

/-- Transmit control: enable. -/
def txEnable : UInt32 := 0x2

/-- Transmit control: pad short packets. -/
def txPadShort : UInt32 := 0x8

/-- Receive control: enable. -/
def rxEnable : UInt32 := 0x2

/-- Receive control: accept broadcasts. -/
def rxBroadcast : UInt32 := 0x8000

/-- Receive control: strip the frame checksum. -/
def rxStripCrc : UInt32 := 0x04000000

/-- Interrupt cause: a transmit descriptor was written back. -/
def causeTxWritten : UInt32 := 0x1

/-- Interrupt cause: a frame was received. -/
def causeReceived : UInt32 := 0x80

/-- Transmit command: the descriptor ends a packet. -/
def commandEndOfPacket : UInt8 := 0x1

/-- Transmit command: report when done. -/
def commandReport : UInt8 := 0x8

/-- Descriptor status: the card is done with the descriptor. -/
def statusDone : UInt8 := 0x1

/-- Descriptor status: the descriptor ends a packet. -/
def statusEndOfPacket : UInt8 := 0x2

/-- The bits of a transmit control word that have a meaning here. -/
def txControlMask : UInt32 := txEnable ||| txPadShort

/-- The bits of a receive control word that have a meaning here. -/
def rxControlMask : UInt32 := rxEnable ||| rxBroadcast ||| rxStripCrc

/-- The interrupt causes that have a meaning here. -/
def causeMask : UInt32 := causeTxWritten ||| causeReceived

/-- The bits of a transmit command that have a meaning here. -/
def commandMask : UInt8 := commandEndOfPacket ||| commandReport

/-- The bits of a transmit status that have a meaning here. -/
def txStatusMask : UInt8 := statusDone

/-- The bits of a receive status that have a meaning here. -/
def rxStatusMask : UInt8 := statusDone ||| statusEndOfPacket

/-- The transmit control word that the driver programs: enabled, short packets padded, with the
manual's collision threshold and full-duplex collision distance. -/
def txControl : UInt32 :=
  txEnable ||| txPadShort ||| ((0x10 : UInt32) <<< (4 : UInt32)) |||
    ((0x40 : UInt32) <<< (12 : UInt32))

/-- The receive control word that the driver programs: enabled, broadcasts accepted, buffers of 2048
bytes, the frame checksum stripped. -/
def rxControl : UInt32 := rxEnable ||| rxBroadcast ||| rxStripCrc

/-- The gaps between packets that the driver programs. -/
def txGap : UInt32 := 10 ||| ((8 : UInt32) <<< (10 : UInt32)) ||| ((6 : UInt32) <<< (20 : UInt32))

/-- The bit of the receive address register that makes the address valid. -/
def addressValid : UInt32 := 0x80000000

end Bits

/-- The two receive address registers for a hardware address, low half first. -/
def receiveAddress (mac : Mac) : UInt32 × UInt32 :=
  (UInt32.ofNat
     (((mac.b3.toNat * 256 + mac.b2.toNat) * 256 + mac.b1.toNat) * 256 + mac.b0.toNat),
   UInt32.ofNat (mac.b5.toNat * 256 + mac.b4.toNat) ||| Bits.addressValid)

/-- A value for each register. -/
structure Registers where
  icr : UInt32
  ims : UInt32
  rctl : UInt32
  tctl : UInt32
  tipg : UInt32
  rdbal : UInt32
  rdbah : UInt32
  rdlen : UInt32
  rdh : UInt32
  rdt : UInt32
  rdtr : UInt32
  radv : UInt32
  tdbal : UInt32
  tdbah : UInt32
  tdlen : UInt32
  tdh : UInt32
  tdt : UInt32
  mta : Vector UInt32 multicastWords
  ral : UInt32
  rah : UInt32
  deriving DecidableEq

namespace Registers

/-- All registers zero, as after a reset. -/
def zero : Registers where
  icr := 0
  ims := 0
  rctl := 0
  tctl := 0
  tipg := 0
  rdbal := 0
  rdbah := 0
  rdlen := 0
  rdh := 0
  rdt := 0
  rdtr := 0
  radv := 0
  tdbal := 0
  tdbah := 0
  tdlen := 0
  tdh := 0
  tdt := 0
  mta := Vector.replicate multicastWords 0
  ral := 0
  rah := 0

/-- The value of a register. -/
def get (registers : Registers) : Reg → UInt32
  | .icr => registers.icr
  | .ims => registers.ims
  | .rctl => registers.rctl
  | .tctl => registers.tctl
  | .tipg => registers.tipg
  | .rdbal => registers.rdbal
  | .rdbah => registers.rdbah
  | .rdlen => registers.rdlen
  | .rdh => registers.rdh
  | .rdt => registers.rdt
  | .rdtr => registers.rdtr
  | .radv => registers.radv
  | .tdbal => registers.tdbal
  | .tdbah => registers.tdbah
  | .tdlen => registers.tdlen
  | .tdh => registers.tdh
  | .tdt => registers.tdt
  | .mta word => registers.mta[word]
  | .ral => registers.ral
  | .rah => registers.rah

/-- The file with one register written. -/
def set (registers : Registers) (value : UInt32) : Reg → Registers
  | .icr => { registers with icr := value }
  | .ims => { registers with ims := value }
  | .rctl => { registers with rctl := value }
  | .tctl => { registers with tctl := value }
  | .tipg => { registers with tipg := value }
  | .rdbal => { registers with rdbal := value }
  | .rdbah => { registers with rdbah := value }
  | .rdlen => { registers with rdlen := value }
  | .rdh => { registers with rdh := value }
  | .rdt => { registers with rdt := value }
  | .rdtr => { registers with rdtr := value }
  | .radv => { registers with radv := value }
  | .tdbal => { registers with tdbal := value }
  | .tdbah => { registers with tdbah := value }
  | .tdlen => { registers with tdlen := value }
  | .tdh => { registers with tdh := value }
  | .tdt => { registers with tdt := value }
  | .mta word => { registers with mta := registers.mta.set word value }
  | .ral => { registers with ral := value }
  | .rah => { registers with rah := value }

/-- A write changes the register written and no other. -/
theorem get_set (registers : Registers) (value : UInt32) (written read : Reg) :
    (registers.set value written).get read =
      if read = written then value else registers.get read := by
  cases written <;> cases read <;> simp [get, set, Vector.getElem_set, eq_comm, Fin.ext_iff]

/-- The slots of the transmit table whose length is programmed, 16 bytes a descriptor. -/
def txSlots (registers : Registers) : Nat := registers.tdlen.toNat / 16

/-- The slots of the receive table whose length is programmed. -/
def rxSlots (registers : Registers) : Nat := registers.rdlen.toNat / 16

end Registers

end NetStack
