import NetStack.Frame.Arp
import NetStack.Nic.Adapter

/-!
# Answering ARP requests

The host answers requests for its own address, and keeps no table of others. A reply that the card
does not take is dropped: the asking host will ask again.
-/

namespace NetStack

/-- The address that is answered for, and the hardware address to answer with. -/
structure Responder where
  ip : Ipv4
  mac : Mac
  deriving DecidableEq, Repr

namespace Responder

variable {β : Type} [RegisterBus β]

/-- Whether a packet asks for the responder's address. -/
def answers (responder : Responder) (packet : ArpPacket) : Bool :=
  packet.isRequest && packet.protocolLength == 4 && packet.targetIp == responder.ip

/-- What is noted of a reply. -/
def replyText (request : ArpFrame) : Except TransmitError Unit → String
  | .ok () => s!"arp: replied to {request.packet.senderIp} ({request.source})"
  | .error error => s!"arp: reply to {request.packet.senderIp} dropped: {error.message}"

/-- Takes ARP frames out of the received frames: the answer says whether the frame was one. A
request for the responder's address is answered as far as the card takes the reply. -/
def handle (responder : Responder) (adapter : Adapter β) (frame : Bytes) :
    Logged (Bool × Adapter β) :=
  match ArpFrame.decode frame with
  | .error _ => pure (false, adapter)
  | .ok request =>
    if responder.answers request.packet then do
      let (outcome, adapter) ← adapter.transmit (ArpFrame.reply request responder.mac)
      Logged.note .debug (replyText request outcome)
      pure (true, adapter)
    else do
      let packet := request.packet
      Logged.note .debug s!"arp: ignored op={packet.operation.toNat} tip={packet.targetIp}"
      pure (true, adapter)

/-- Answering leaves the receive ring alone. -/
@[simp] theorem rx_handle (responder : Responder) (adapter : Adapter β) (frame : Bytes) :
    (responder.handle adapter frame).value.2.rx = adapter.rx := by
  unfold handle
  split
  · rfl
  · split
    · exact adapter.rx_transmit _
    · rfl

end Responder

end NetStack
