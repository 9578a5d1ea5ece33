import NetStack.Frame.Error
import NetStack.Frame.Ethernet
import NetStack.Frame.Ip

/-!
# UDP frames

A frame that carries a datagram has an Ethernet header, an IPv4 header without options and a UDP
header, 42 bytes together, and the payload behind them. `Udp.encode` puts such a frame into a buffer
and `Udp.decode` reads one, naming the first fault that it meets.
-/

namespace NetStack

/-- The header in front of a datagram's payload. -/
structure UdpHeader where
  source : UInt16
  dest : UInt16
  /-- The length of header and payload in bytes. -/
  length : UInt16
  check : UInt16
  deriving DecidableEq, Repr

namespace UdpHeader

/-- The length of the header in bytes. -/
def size : Nat := 8

/-- The header as it stands on the wire. -/
def toBytes (header : UdpHeader) : Bytes :=
  Bytes.bytes16 header.source ++ Bytes.bytes16 header.dest ++
    Bytes.bytes16 header.length ++ Bytes.bytes16 header.check

/-- Takes a header off the front of a segment. -/
def reader : Reader UdpHeader := do
  let source ← Reader.word16
  let dest ← Reader.word16
  let length ← Reader.word16
  let check ← Reader.word16
  return { source, dest, length, check }

/-- The header of a segment, if the segment is long enough to have one. -/
def parse? (segment : Bytes) : Option UdpHeader :=
  reader.parse? segment

/-- The header written over the start of a buffer of at least eight bytes. -/
def emit? (header : UdpHeader) (buffer : Bytes) : Option Bytes :=
  Bytes.writeHead? header.toBytes buffer

@[simp] theorem length_toBytes (header : UdpHeader) : header.toBytes.length = size := rfl

/-- Reading a written header gives it back, whatever follows it. -/
theorem parse?_toBytes (header : UdpHeader) (rest : Bytes) :
    parse? (header.toBytes ++ rest) = some header := by
  simp [parse?, Reader.parse?, reader, toBytes]

end UdpHeader

/-- A received datagram: who sent it, to which of the host's ports, and what it says. -/
structure Datagram where
  src : Ipv4
  sport : UInt16
  dport : UInt16
  payload : Bytes
  deriving DecidableEq, Repr

namespace Udp

/-- The bytes of the three headers in front of a payload. -/
def frameOverhead : Nat := EthernetHeader.size + IpHeader.size + UdpHeader.size

/-- The longest payload of a datagram. -/
def maxPayload : Nat := 65507

/-- The UDP header and payload of a datagram, with its checksum filled in. -/
def segment (src dst : Ipv4) (sport dport : UInt16) (payload : Bytes) : Bytes :=
  let length := UInt16.ofNat (UdpHeader.size + payload.length)
  let blank : UdpHeader := { source := sport, dest := dport, length, check := 0 }
  -- the sum covers the header too, with the checksum field zero
  let check := Checksum.ofUdp src dst (blank.toBytes ++ payload)
  { blank with check }.toBytes ++ payload

/-- The whole frame of a datagram. Its hardware addresses are left zero for the sender to fill in.
-/
def frame (dst : Ipv4) (dport : UInt16) (src : Ipv4) (sport : UInt16) (payload : Bytes) : Bytes :=
  let ethernet : EthernetHeader :=
    { dest := Mac.zero, source := Mac.zero, kind := EtherType.ipv4.toWord }
  ethernet.toBytes ++ (IpHeader.udp src dst (UdpHeader.size + payload.length)).toBytes ++
    segment src dst sport dport payload

/-- Writes the frame of a datagram over the start of `buffer`. The answer is the length of the frame
and the buffer afterwards; a frame that is refused leaves no trace. -/
def encode (buffer : Bytes) (dst : Ipv4) (dport : UInt16) (src : Ipv4) (sport : UInt16)
    (payload : Bytes) : Except FrameError (Nat × Bytes) :=
  let length := frameOverhead + payload.length
  if maxPayload < payload.length then
    .error .payloadTooLarge
  else if buffer.length < length then
    .error .bufferTooSmall
  else
    .ok (length, frame dst dport src sport payload ++ buffer.drop length)

/-- Reads the datagram of a frame. The frame may be longer than its headers declare, as short frames
are padded on the wire; the payload must fit `capacity`, and the checksums are looked at only if
`verify` is set. -/
def decode (frame : Bytes) (capacity : Nat) (verify : Bool) : Except FrameError Datagram := do
  if frame.length < frameOverhead then
    throw .truncated
  unless Ethernet.kindOf? frame = some EtherType.ipv4.toWord do
    throw .notIpv4
  -- the IP header: version 4, no options, UDP inside
  let packet := frame.drop EthernetHeader.size
  let some ip := IpHeader.parse? packet | throw .truncated
  unless ip.version = 4 do
    throw .notIpv4
  unless ip.headerLength = IpHeader.size do
    throw .badHeaderLength
  unless ip.protocol = Checksum.udpProtocol do
    throw .notUdp
  -- the two declared lengths must agree, and the frame must hold what they declare
  let behind := packet.drop IpHeader.size
  let some udp := UdpHeader.parse? behind | throw .truncated
  let length := udp.length.toNat
  if ip.totalLength.toNat ≠ length + IpHeader.size ∨ length < UdpHeader.size then
    throw .lengthMismatch
  if behind.length < length then
    throw .truncated
  -- what follows the segment is padding
  let segment := behind.take length
  if verify ∧ ¬(Checksum.verify (packet.take IpHeader.size) ∧
      Checksum.verifyUdp ip.source ip.dest segment) then
    throw .badChecksum
  let payload := segment.drop UdpHeader.size
  if capacity < payload.length then
    throw .payloadTooLarge
  return { src := ip.source, sport := udp.source, dport := udp.dest, payload }

/-- Reads the datagram of a received frame, with the host's choice about checksums. -/
def receive (frame : Bytes) (capacity : Nat) : Except FrameError Datagram :=
  decode frame capacity Host.verifyChecksums

@[simp] theorem length_segment (src dst : Ipv4) (sport dport : UInt16) (payload : Bytes) :
    (segment src dst sport dport payload).length = UdpHeader.size + payload.length := by
  simp [segment]

/-- A frame is as long as its headers and its payload. -/
@[simp] theorem length_frame (dst : Ipv4) (dport : UInt16) (src : Ipv4) (sport : UInt16)
    (payload : Bytes) :
    (frame dst dport src sport payload).length = frameOverhead + payload.length := by
  simp [frame, frameOverhead]
  omega

end Udp

end NetStack
