import NetStack.Frame.Error
import NetStack.Frame.Ethernet

/-!
# ARP frames

A packet of 28 bytes behind an Ethernet header asks for, or tells, the hardware address of an IPv4
address. The host asks nobody; it reads requests and writes replies. A reply goes back to the
station that the request's frame came from, and names that station as its target.
-/

namespace NetStack

/-- An ARP packet for Ethernet and IPv4. -/
structure ArpPacket where
  /-- The kind of hardware address. -/
  hardware : UInt16
  /-- The kind of protocol address. -/
  protocol : UInt16
  hardwareLength : UInt8
  protocolLength : UInt8
  operation : UInt16
  senderMac : Mac
  senderIp : Ipv4
  targetMac : Mac
  targetIp : Ipv4
  deriving DecidableEq, Repr

namespace ArpPacket

/-- The length of the packet in bytes. -/
def size : Nat := 28

/-- The operation number of a request. -/
def request : UInt16 := 1

/-- The operation number of a reply. -/
def reply : UInt16 := 2

/-- The packet as it stands on the wire. -/
def toBytes (packet : ArpPacket) : Bytes :=
  Bytes.bytes16 packet.hardware ++ Bytes.bytes16 packet.protocol ++
    [packet.hardwareLength, packet.protocolLength] ++ Bytes.bytes16 packet.operation ++
    packet.senderMac.toBytes ++ packet.senderIp.toBytes ++
    packet.targetMac.toBytes ++ packet.targetIp.toBytes

/-- Takes a packet off the front of a byte string. -/
def reader : Reader ArpPacket := do
  let hardware ← Reader.word16
  let protocol ← Reader.word16
  let hardwareLength ← Reader.byte
  let protocolLength ← Reader.byte
  let operation ← Reader.word16
  let senderMac ← Mac.reader
  let senderIp ← Ipv4.reader
  let targetMac ← Mac.reader
  let targetIp ← Ipv4.reader
  return { hardware, protocol, hardwareLength, protocolLength, operation,
           senderMac, senderIp, targetMac, targetIp }

/-- The packet at the start of a byte string, if the string is long enough to hold one. -/
def parse? (bytes : Bytes) : Option ArpPacket :=
  reader.parse? bytes

/-- The packet written over the start of a buffer of at least 28 bytes. -/
def emit? (packet : ArpPacket) (buffer : Bytes) : Option Bytes :=
  Bytes.writeHead? packet.toBytes buffer

/-- Whether the packet asks for an address. -/
def isRequest (packet : ArpPacket) : Bool :=
  packet.operation == request

@[simp] theorem length_toBytes (packet : ArpPacket) : packet.toBytes.length = size := rfl

/-- Reading a written packet gives it back, whatever follows it. -/
theorem parse?_toBytes (packet : ArpPacket) (rest : Bytes) :
    parse? (packet.toBytes ++ rest) = some packet := by
  simp [parse?, Reader.parse?, reader, toBytes]

end ArpPacket

/-- An ARP packet together with the hardware address that its frame came from. -/
structure ArpFrame where
  source : Mac
  packet : ArpPacket
  deriving DecidableEq, Repr

namespace ArpFrame

/-- The length of a frame that holds just an ARP packet. -/
def size : Nat := EthernetHeader.size + ArpPacket.size

/-- Reads an ARP frame. Only its length and its Ethernet type are looked at. -/
def decode (frame : Bytes) : Except FrameError ArpFrame := do
  if frame.length < size then
    throw .truncated
  let some ethernet := EthernetHeader.parse? frame | throw .truncated
  unless ethernet.etherType? = some .arp do
    throw .notArp
  let some packet := ArpPacket.parse? (frame.drop EthernetHeader.size) | throw .truncated
  return { source := ethernet.source, packet }

/-- The frame that carries `packet` from `source` to `dest`. -/
def encode (dest source : Mac) (packet : ArpPacket) : Bytes :=
  let ethernet : EthernetHeader := { dest, source, kind := EtherType.arp.toWord }
  ethernet.toBytes ++ packet.toBytes

/-- The packet that answers a request: the address asked for is now the sender's and belongs to
`mac`, and the target is the asking host at the hardware address that the request came from. -/
def replyPacket (request : ArpFrame) (mac : Mac) : ArpPacket :=
  { request.packet with
    operation := ArpPacket.reply
    senderMac := mac
    senderIp := request.packet.targetIp
    targetMac := request.source
    targetIp := request.packet.senderIp }

/-- The frame that answers a request. -/
def reply (request : ArpFrame) (mac : Mac) : Bytes :=
  encode request.source mac (replyPacket request mac)

/-- The frame in which a station asks all others for the hardware address of `targetIp`. -/
def request (senderMac : Mac) (senderIp targetIp : Ipv4) : Bytes :=
  encode Mac.broadcast senderMac
    { hardware := 1
      protocol := EtherType.ipv4.toWord
      hardwareLength := 6
      protocolLength := 4
      operation := ArpPacket.request
      senderMac
      senderIp
      targetMac := Mac.zero
      targetIp }

@[simp] theorem length_encode (dest source : Mac) (packet : ArpPacket) :
    (encode dest source packet).length = size := rfl

/-- Reading a written ARP frame gives back its source and its packet. -/
theorem decode_encode (dest source : Mac) (packet : ArpPacket) :
    decode (encode dest source packet) = .ok { source, packet } := by
  -- both headers stand where the reader looks for them
  have hpacket : ArpPacket.parse? packet.toBytes = some packet := by
    simpa using ArpPacket.parse?_toBytes packet []
  have hdrop : (encode dest source packet).drop EthernetHeader.size = packet.toBytes := rfl
  have hparse : EthernetHeader.parse? (encode dest source packet) =
      some { dest, source, kind := EtherType.arp.toWord } :=
    EthernetHeader.parse?_toBytes _ _
  simp [decode, hdrop, hpacket, hparse, EthernetHeader.etherType?, EtherType.ofWord?_toWord]
  rfl

end ArpFrame

end NetStack
