/-!
# Why a frame is refused

The causes for which a frame cannot be built or read. All of them are transient: the receive path
drops the frame and goes on, and the send path reports the cause to its caller.
-/

namespace NetStack

/-- Why a frame cannot be built or read. -/
inductive FrameError where
  /-- The frame is shorter than it declares. -/
  | truncated
  /-- The Ethernet type or the IP version is not that of IPv4. -/
  | notIpv4
  /-- The IP protocol is not UDP. -/
  | notUdp
  /-- The Ethernet type is not ARP. -/
  | notArp
  /-- The IP header has options, or is shorter than the fixed header. -/
  | badHeaderLength
  /-- The IP total length and the UDP length disagree. -/
  | lengthMismatch
  /-- The payload is longer than the caller can take, or than a datagram can hold. -/
  | payloadTooLarge
  /-- The frame does not fit the output buffer. -/
  | bufferTooSmall
  /-- The IP or the UDP checksum is wrong. -/
  | badChecksum
  deriving DecidableEq, Repr

namespace FrameError

/-- The cause in words. -/
def message : FrameError → String
  | truncated => "truncated frame"
  | notIpv4 => "not an IPv4 frame"
  | notUdp => "not a UDP packet"
  | notArp => "not an ARP frame"
  | badHeaderLength => "IP header with options"
  | lengthMismatch => "IP/UDP length mismatch"
  | payloadTooLarge => "payload exceeds capacity"
  | bufferTooSmall => "frame exceeds buffer"
  | badChecksum => "bad checksum"

end FrameError

end NetStack
