import NetStack.Address

/-!
# The host's configuration

The addresses, sizes and limits that the running stack is built with. They are the values that an
empty configuration document stands for; `NetStack.Config` holds the document's side.
-/

namespace NetStack.Host

/-- The host's IPv4 address. -/
def ip : Ipv4 := ⟨10, 0, 2, 15⟩

/-- The host's hardware address. -/
def mac : Mac := ⟨0x52, 0x54, 0x00, 0x12, 0x34, 0x56⟩

/-- The hardware address of the gateway, to which every datagram is sent. -/
def gateway : Mac := ⟨0x52, 0x55, 0x0a, 0x00, 0x02, 0x02⟩

/-- The time to live of a sent packet. -/
def ttl : UInt8 := 100

/-- The number of transmit descriptors. -/
abbrev txRingSize : Nat := 16

/-- The number of receive descriptors. -/
abbrev rxRingSize : Nat := 16

/-- A transmit ring has a first slot. -/
theorem txRingSize_pos : 0 < txRingSize := by decide

/-- A receive ring has a first slot. -/
theorem rxRingSize_pos : 0 < rxRingSize := by decide

/-- The size of a transmit buffer, and so of the longest frame that is sent. -/
abbrev txBufferSize : Nat := 1518

/-- The size of a receive buffer, and so of the longest frame that is received. -/
abbrev rxBufferSize : Nat := 2048

/-- The size of the buffer in which a frame is put together, and the longest payload received. -/
def frameCapacity : Nat := 4096

/-- Whether received datagrams must carry right checksums. -/
def verifyChecksums : Bool := false

/-- The number of sockets that may be open at a time. -/
abbrev socketTableSize : Nat := 64

/-- The number of datagrams kept for a port while nobody reads it. -/
def socketBacklog : Nat := 16

/-- The address of the PCI configuration window. -/
def ecamBase : Nat := 0x30000000

/-- The address to which the card's registers are mapped. -/
def registerBase : UInt32 := 0x40000000

/-- The size of a page: the most that one system call copies. -/
def pageSize : Nat := 4096

end NetStack.Host
