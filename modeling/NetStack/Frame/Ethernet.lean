import NetStack.Address

/-!
# Ethernet headers

Fourteen bytes: destination, source, and the type of what follows. `parse?_toBytes` says that
reading undoes writing.
-/

namespace NetStack

/-- The two kinds of frame that the stack knows. -/
inductive EtherType where
  | ipv4
  | arp
  deriving DecidableEq, Repr

namespace EtherType

/-- The number of a kind of frame in an Ethernet header. -/
def toWord : EtherType → UInt16
  | ipv4 => 0x0800
  | arp => 0x0806

/-- The kind of frame with a given number, if the stack knows it. -/
def ofWord? (word : UInt16) : Option EtherType :=
  if word = ipv4.toWord then some ipv4 else if word = arp.toWord then some arp else none

/-- A known kind of frame is read back from its number. -/
theorem ofWord?_toWord (kind : EtherType) : ofWord? kind.toWord = some kind := by
  cases kind <;> rfl

end EtherType

/-- The header at the start of every frame. -/
structure EthernetHeader where
  dest : Mac
  source : Mac
  /-- The number of the kind of frame, known or not. -/
  kind : UInt16
  deriving DecidableEq, Repr

namespace EthernetHeader

/-- The length of the header in bytes. -/
def size : Nat := 14

/-- The header as it stands on the wire. -/
def toBytes (header : EthernetHeader) : Bytes :=
  header.dest.toBytes ++ header.source.toBytes ++ Bytes.bytes16 header.kind

/-- Takes a header off the front of a frame. -/
def reader : Reader EthernetHeader := do
  let dest ← Mac.reader
  let source ← Mac.reader
  let kind ← Reader.word16
  return { dest, source, kind }

/-- The header of a frame, if the frame is long enough to have one. -/
def parse? (frame : Bytes) : Option EthernetHeader :=
  reader.parse? frame

/-- The header written over the start of a buffer of at least fourteen bytes. -/
def emit? (header : EthernetHeader) (buffer : Bytes) : Option Bytes :=
  Bytes.writeHead? header.toBytes buffer

/-- The kind of frame that the header announces, if the stack knows it. -/
def etherType? (header : EthernetHeader) : Option EtherType :=
  EtherType.ofWord? header.kind

/-- Whether the frame is for every station. -/
def isBroadcast (header : EthernetHeader) : Bool :=
  header.dest == Mac.broadcast

@[simp] theorem length_toBytes (header : EthernetHeader) : header.toBytes.length = size := rfl

/-- Reading a written header gives it back, whatever follows it. -/
theorem parse?_toBytes (header : EthernetHeader) (rest : Bytes) :
    parse? (header.toBytes ++ rest) = some header := by
  simp [parse?, Reader.parse?, reader, toBytes]

end EthernetHeader

namespace Ethernet

/-- The number of the kind of a frame, if the frame is long enough to have one. -/
def kindOf? (frame : Bytes) : Option UInt16 :=
  Reader.word16.parse? (frame.drop 12)

/-- The frame with new destination and source addresses in front. -/
def setAddresses (frame : Bytes) (dest source : Mac) : Bytes :=
  dest.toBytes ++ source.toBytes ++ frame.drop 12

/-- The frame with new destination and source addresses; a frame shorter than the two addresses
refuses them. -/
def setAddresses? (frame : Bytes) (dest source : Mac) : Option Bytes :=
  if frame.length < 12 then none else some (setAddresses frame dest source)

end Ethernet

end NetStack
