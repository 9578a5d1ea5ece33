import NetStack.Checksum
import NetStack.Host

/-!
# IPv4 headers

Twenty bytes, without options. A written header always carries its right checksum: the `check` field
of the value is what was read, and writing computes it anew.
-/

namespace NetStack

/-- The fixed part of an IPv4 header. -/
structure IpHeader where
  /-- The version in the high half, the header length in 32-bit words in the low half. -/
  versionIhl : UInt8
  tos : UInt8
  /-- The length of header and payload in bytes. -/
  totalLength : UInt16
  id : UInt16
  /-- The fragment flags and the fragment offset. -/
  fragment : UInt16
  ttl : UInt8
  protocol : UInt8
  check : UInt16
  source : Ipv4
  dest : Ipv4
  deriving DecidableEq, Repr

namespace IpHeader

/-- The length of the header in bytes. -/
def size : Nat := 20

/-- The header of a UDP packet whose UDP part has `length` bytes. -/
def udp (source dest : Ipv4) (length : Nat) : IpHeader where
  versionIhl := 0x45
  tos := 0
  totalLength := UInt16.ofNat (size + length)
  id := 0
  fragment := 0
  ttl := Host.ttl
  protocol := Checksum.udpProtocol
  check := 0
  source := source
  dest := dest

/-- The bytes of the header with the given checksum field. -/
def layout (header : IpHeader) (check : UInt16) : Bytes :=
  [header.versionIhl, header.tos] ++ Bytes.bytes16 header.totalLength ++
    Bytes.bytes16 header.id ++ Bytes.bytes16 header.fragment ++
    [header.ttl, header.protocol] ++ Bytes.bytes16 check ++
    header.source.toBytes ++ header.dest.toBytes

/-- The checksum of the header, taken with a zero checksum field. -/
def checksum (header : IpHeader) : UInt16 :=
  Checksum.ofBytes (header.layout 0)

/-- The header as it stands on the wire, with its checksum filled in. -/
def toBytes (header : IpHeader) : Bytes :=
  header.layout header.checksum

/-- Takes a header off the front of a packet. -/
def reader : Reader IpHeader := do
  let versionIhl ← Reader.byte
  let tos ← Reader.byte
  let totalLength ← Reader.word16
  let id ← Reader.word16
  let fragment ← Reader.word16
  let ttl ← Reader.byte
  let protocol ← Reader.byte
  let check ← Reader.word16
  let source ← Ipv4.reader
  let dest ← Ipv4.reader
  return { versionIhl, tos, totalLength, id, fragment, ttl, protocol, check, source, dest }

/-- The header of a packet, if the packet is long enough to have one; its fields are not checked. -/
def parse? (packet : Bytes) : Option IpHeader :=
  reader.parse? packet

/-- The header written over the start of a buffer of at least twenty bytes. -/
def emit? (header : IpHeader) (buffer : Bytes) : Option Bytes :=
  Bytes.writeHead? header.toBytes buffer

/-- The IP version. -/
def version (header : IpHeader) : Nat :=
  header.versionIhl.toNat / 16

/-- The length of the header in bytes, options included. -/
def headerLength (header : IpHeader) : Nat :=
  header.versionIhl.toNat % 16 * 4

@[simp] theorem length_layout (header : IpHeader) (check : UInt16) :
    (header.layout check).length = size := rfl

@[simp] theorem length_toBytes (header : IpHeader) : header.toBytes.length = size := rfl

/-- Reading a written header gives it back with the checksum that was written. -/
theorem parse?_layout (header : IpHeader) (check : UInt16) (rest : Bytes) :
    parse? (header.layout check ++ rest) = some { header with check := check } := by
  simp [parse?, Reader.parse?, reader, layout]

end IpHeader

end NetStack
