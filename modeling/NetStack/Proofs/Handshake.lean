import NetStack.Proofs.Transparency

/-!
# Requests and replies

A responder handles one frame after another and replies to some of them. To reply is to transmit one
frame over the device and nothing else (`Responder.RepliesWith`, `Responder.handle_value`). On the
emulated card, what was transmitted comes behind all frames that were sent or are outstanding
(`Responder.Transmits`): it is the reply to a request for the responder's own address, if the card
takes it (`Responder.transmits_iff`). A reply asks for nothing, whatever it replies to, so that
every responder passes over it (`Responder.passesOver_of_reply?`), and however responders hand each
other frames, there is at most one reply per request (`Exchange.oneReplyPerRequest`). `handshake`
puts this together.

A reply names as its target the asking host at the hardware address that its frame came from, which
is the sender of the request exactly if the two hardware addresses in the request agree
(`Responder.swaps_iff`).
-/

namespace NetStack

/-! ## What a responder does to its device -/

namespace Responder

/-- A responder replies to a frame: over every device, handling the frame is transmitting the reply.
-/
def RepliesWith (responder : Responder) (frame reply : Bytes) : Prop :=
  ∀ ⦃β : Type⦄ [RegisterBus β] (adapter : Adapter β),
    (responder.handle adapter frame).value = (true, (adapter.transmit reply).value.2)

/-- A responder passes over a frame: over every device, it takes the frame out of the received ones
and leaves the device as it is. -/
def PassesOver (responder : Responder) (frame : Bytes) : Prop :=
  ∀ ⦃β : Type⦄ [RegisterBus β] (adapter : Adapter β),
    (responder.handle adapter frame).value = (true, adapter)

/-- The frames that the emulated card is given when a responder handles a frame: they come behind
all that it has sent or has still to send. -/
def Transmits (responder : Responder) (adapter : Adapter Emulated) (frame : Bytes)
    (replies : List Bytes) : Prop :=
  let next := (responder.handle adapter frame).value.2
  next.bus.sent ++ next.outstanding = adapter.bus.sent ++ adapter.outstanding ++ replies

/-- The reply to a frame is transmitted, if there is one, and otherwise the device is left alone. -/
theorem handle_value {β : Type} [RegisterBus β] (responder : Responder) (adapter : Adapter β)
    (frame : Bytes) :
    (responder.handle adapter frame).value =
      match responder.reply? frame with
      | none => ((ArpFrame.decode frame).isOk, adapter)
      | some reply => (true, (adapter.transmit reply).value.2) := by
  unfold handle reply?
  cases ArpFrame.decode frame with
  | error fault => rfl
  | ok request =>
    by_cases hanswers : responder.answers request.packet = true
    · have hasks := (responder.answers_iff _).1 hanswers
      simp only [hanswers, if_true, Logged.value_bind, if_pos hasks]
      rfl
    · have hasks := mt (responder.answers_iff _).2 hanswers
      simp only [hanswers, if_neg hasks]
      rfl

/-- The reply is what the responder replies with. -/
theorem repliesWith_of_reply? {responder : Responder} {frame reply : Bytes}
    (h : responder.reply? frame = some reply) : responder.RepliesWith frame reply := by
  intro β _ adapter
  rw [handle_value, h]

/-- An ARP frame without a reply is passed over. -/
theorem passesOver_of_none {responder : Responder} {frame : Bytes}
    (hframe : (ArpFrame.decode frame).isOk = true) (h : responder.reply? frame = none) :
    responder.PassesOver frame := by
  intro β _ adapter
  rw [handle_value, h, hframe]

/-- The emulated card is given the reply to the frame, if there is one and the card takes it. -/
theorem frames_eq_handle (responder : Responder) {adapter : Adapter Emulated}
    (h : adapter.TxLinked) (frame : Bytes) :
    let next := (responder.handle adapter frame).value.2
    next.TxLinked ∧ next.bus.sent ++ next.outstanding =
      adapter.bus.sent ++ adapter.outstanding ++
        (responder.reply? frame).toList.filter fun reply =>
          (adapter.transmit reply).value.1.isOk := by
  rw [handle_value]
  cases responder.reply? frame with
  | none => exact ⟨h, (List.append_nil _).symm⟩
  | some reply =>
    rcases htransmit : (adapter.transmit reply).value with ⟨outcome, next⟩
    simp only [htransmit, Option.toList_some, List.filter_cons, List.filter_nil]
    cases h.transmit_spec htransmit with
    -- a refusal leaves the ring and the line as they are
    | tooLong => exact ⟨h, (List.append_nil _).symm⟩
    | full => exact ⟨h, (List.append_nil _).symm⟩
    | taken _ hlinked hframes => exact ⟨hlinked, hframes⟩

/-- What is transmitted is the reply to the frame, if there is one and the card takes it. -/
theorem transmits_iff (responder : Responder) {adapter : Adapter Emulated} (h : adapter.TxLinked)
    {frame : Bytes} {replies : List Bytes} :
    responder.Transmits adapter frame replies ↔
      replies = (responder.reply? frame).toList.filter fun reply =>
        (adapter.transmit reply).value.1.isOk := by
  have hframes := (responder.frames_eq_handle h frame).2
  unfold Transmits
  dsimp only
  rw [hframes, List.append_cancel_left_eq]
  exact eq_comm

/-- What is transmitted is the reply. -/
theorem reply?_of_transmits {responder : Responder} {adapter : Adapter Emulated}
    (hlinked : adapter.TxLinked) {frame reply : Bytes} {replies : List Bytes}
    (h : responder.Transmits adapter frame replies) (hmem : reply ∈ replies) :
    responder.reply? frame = some reply := by
  rw [(responder.transmits_iff hlinked).1 h] at hmem
  exact Option.mem_toList.1 (List.mem_filter.1 hmem).1

/-- Where there is no reply, nothing is transmitted. -/
theorem transmits_of_none {responder : Responder} {adapter : Adapter Emulated}
    (hlinked : adapter.TxLinked) {frame : Bytes} (h : responder.reply? frame = none) :
    responder.Transmits adapter frame [] := by
  rw [responder.transmits_iff hlinked, h]
  rfl

end Responder

/-! ## Free slots -/

/-- A device has a free transmit slot if the descriptor at its tail is the driver's. -/
def Adapter.HasRoom {β : Type} [RegisterBus β] (adapter : Adapter β) : Prop :=
  (adapter.tx.descriptor
    (Slot.wrap (RegisterBus.read adapter.bus .tdt).1 Host.txRingSize_pos)).done = true

/-- A frame that fits a buffer is taken where a slot is free. -/
theorem Adapter.HasRoom.transmit {β : Type} [RegisterBus β] {adapter : Adapter β}
    (h : adapter.HasRoom) {frame : Bytes} (hfits : frame.length ≤ Host.txBufferSize) :
    (adapter.transmit frame).value.1 = .ok () := by
  unfold HasRoom at h
  simp only [Adapter.transmit]
  rw [if_neg (Nat.not_lt.2 hfits), if_pos h]
  rfl

/-- The emulated card has a free transmit slot as long as not all of them are pending. -/
theorem Adapter.TxLinked.hasRoom_iff {adapter : Adapter Emulated} (h : adapter.TxLinked) :
    adapter.HasRoom ↔ adapter.bus.pending < Host.txRingSize := by
  have hslot : Slot.wrap (RegisterBus.read adapter.bus .tdt).1 Host.txRingSize_pos =
      adapter.bus.txTail := h.wrap_tdt
  unfold HasRoom
  rw [hslot, Emulated.txTail]
  rcases Nat.lt_or_eq_of_le h.pending_le with hroom | hfull
  · rw [h.done_iff _ hroom]
    exact iff_of_true (Nat.le_refl _) hroom
  · -- all slots are pending, and the one at the tail is that at the head
    have hhead := h.done_iff 0 (by decide)
    rw [Slot.ahead_zero] at hhead
    rw [hfull, Slot.ahead_size, hhead, hfull]
    decide

/-- A card that was just set up has free slots. -/
theorem Adapter.SetUp.hasRoom {adapter : Adapter Emulated} (h : adapter.SetUp) :
    adapter.HasRoom := by
  rw [h.txLinked.hasRoom_iff, h.pending]
  decide

/-- Where a slot is free, the reply is transmitted and nothing else. -/
theorem Responder.transmits_of_reply? {responder : Responder} {adapter : Adapter Emulated}
    (hlinked : adapter.TxLinked) (hroom : adapter.HasRoom) {frame reply : Bytes}
    (h : responder.reply? frame = some reply) : responder.Transmits adapter frame [reply] := by
  have htaken : (adapter.transmit reply).value.1.isOk = true := by
    rw [hroom.transmit (length_of_reply? h)]
    rfl
  rw [responder.transmits_iff hlinked, h]
  simp only [Option.toList_some, List.filter_cons, htaken, if_true, List.filter_nil]

/-- On a card that was just set up, what is transmitted is all that there is to send. -/
theorem Adapter.SetUp.frames_of_transmits {adapter : Adapter Emulated} (h : adapter.SetUp)
    {responder : Responder} {frame : Bytes} {replies : List Bytes}
    (htransmits : responder.Transmits adapter frame replies) :
    let next := (responder.handle adapter frame).value.2
    adapter.bus.sent ++ adapter.outstanding = [] ∧ next.bus.sent ++ next.outstanding = replies := by
  have hnothing : adapter.bus.sent ++ adapter.outstanding = [] := by
    rw [h.sent, h.outstanding]
    rfl
  refine ⟨hnothing, ?_⟩
  unfold Responder.Transmits at htransmits
  rw [hnothing] at htransmits
  exact htransmits

/-! ## Requests -/

namespace ArpFrame

/-- Whether a frame is an ARP request. -/
def asks (frame : Bytes) : Bool :=
  match decode frame with
  | .error _ => false
  | .ok request => request.packet.isRequest

/-- A reply is no request, whatever it replies to. -/
theorem asks_reply (request : ArpFrame) (mac : Mac) : asks (reply request mac) = false := by
  unfold asks reply
  rw [decode_encode]
  rfl

end ArpFrame

namespace Responder

/-- A request is replied to by the responder for the address that it asks for. -/
theorem reply?_request (responder : Responder) (mac : Mac) (ip target : Ipv4) :
    responder.reply? (ArpFrame.request mac ip target) =
      if target = responder.ip then
        some (ArpFrame.encode mac responder.mac
          ⟨1, 0x0800, 6, 4, 2, responder.mac, target, mac, ip⟩)
      else none := by
  unfold reply?
  rw [ArpFrame.request, ArpFrame.decode_encode]
  by_cases htarget : target = responder.ip
  · rw [if_pos htarget]
    exact if_pos ⟨rfl, rfl, htarget⟩
  · rw [if_neg htarget]
    exact if_neg fun hasks => htarget hasks.2.2

/-- What is replied to is an ARP frame that asks for the responder's address. -/
theorem reply?_eq_some_iff {responder : Responder} {frame reply : Bytes} :
    responder.reply? frame = some reply ↔ ∃ request, ArpFrame.decode frame = .ok request ∧
      responder.answers request.packet = true ∧ ArpFrame.reply request responder.mac = reply := by
  unfold reply?
  cases hdecode : ArpFrame.decode frame with
  | error fault => simp
  | ok request => simp [← responder.answers_iff]

/-- A frame that is replied to is a request, and its reply is none. -/
theorem asks_of_reply? {responder : Responder} {frame reply : Bytes}
    (h : responder.reply? frame = some reply) :
    ArpFrame.asks frame = true ∧ ArpFrame.asks reply = false := by
  obtain ⟨request, hdecode, hanswers, rfl⟩ := reply?_eq_some_iff.1 h
  refine ⟨?_, ArpFrame.asks_reply _ _⟩
  unfold ArpFrame.asks
  rw [hdecode]
  unfold answers at hanswers
  rw [Bool.and_eq_true, Bool.and_eq_true] at hanswers
  exact hanswers.1.1

/-- A frame that asks for nothing is not replied to. -/
theorem reply?_of_asks {frame : Bytes} (h : ArpFrame.asks frame = false) (responder : Responder) :
    responder.reply? frame = none := by
  cases hreply : responder.reply? frame with
  | none => rfl
  | some reply =>
    rw [(asks_of_reply? hreply).1] at h
    cases h

/-- Requests are replied to at most once, and other frames not at all. -/
theorem length_le_of_transmits {responder : Responder} {adapter : Adapter Emulated}
    (hlinked : adapter.TxLinked) {frame : Bytes} {replies : List Bytes}
    (h : responder.Transmits adapter frame replies) :
    replies.length ≤ if ArpFrame.asks frame then 1 else 0 := by
  rw [(responder.transmits_iff hlinked).1 h]
  cases hreply : responder.reply? frame with
  | none => exact Nat.zero_le _
  | some reply =>
    rw [(asks_of_reply? hreply).1]
    exact List.length_filter_le _ _

/-- Every responder passes over a reply, whatever it replies to. -/
theorem passesOver_of_reply? {sender : Responder} {frame reply : Bytes}
    (h : sender.reply? frame = some reply) (receiver : Responder) : receiver.PassesOver reply := by
  have hnone := reply?_of_asks (asks_of_reply? h).2 receiver
  refine passesOver_of_none ?_ hnone
  obtain ⟨request, -, -, rfl⟩ := reply?_eq_some_iff.1 h
  rw [ArpFrame.reply, ArpFrame.decode_encode]
  rfl

/-- What a responder does to a frame over any device: nothing, or it transmits one frame, which all
responders pass over. -/
theorem leaves_or_replies (sender : Responder) (frame : Bytes) :
    (∀ {β : Type} [RegisterBus β] (adapter : Adapter β),
      (sender.handle adapter frame).value.2 = adapter) ∨
    ∃ reply, sender.RepliesWith frame reply ∧
      ∀ receiver : Responder, receiver.PassesOver reply := by
  cases hreply : sender.reply? frame with
  | none =>
    left
    intro β _ adapter
    rw [handle_value, hreply]
  | some reply => exact .inr ⟨reply, repliesWith_of_reply? hreply, passesOver_of_reply? hreply⟩

end Responder

/-! ## Exchanges -/

/-- A frame that a responder handled, and what it transmitted meanwhile. -/
structure Turn where
  frame : Bytes
  transmitted : List Bytes

/-- An exchange between any responders over any cards: one after another, they handle frames that
come from outside or were transmitted earlier in the exchange, in any order and any number of
times. -/
inductive Exchange (outside : List Bytes) : List Turn → Prop
  | start : Exchange outside []
  | handle {turns : List Turn} {frame : Bytes} {replies : List Bytes} {adapter : Adapter Emulated}
      (earlier : Exchange outside turns)
      (hframe : frame ∈ outside ∨ ∃ turn ∈ turns, frame ∈ turn.transmitted)
      (responder : Responder) (hlinked : adapter.TxLinked)
      (htransmits : responder.Transmits adapter frame replies) :
      Exchange outside (turns ++ [⟨frame, replies⟩])

/-- What an exchange keeps to: no reply asks for anything in turn. -/
structure OneReplyPerRequest (outside : List Bytes) (turns : List Turn) : Prop where
  /-- All requests come from outside. -/
  outside : ∀ turn ∈ turns, ArpFrame.asks turn.frame = true → turn.frame ∈ outside
  /-- To a request there is at most one reply, and to any other frame none. -/
  each : ∀ turn ∈ turns, turn.transmitted.length ≤ if ArpFrame.asks turn.frame then 1 else 0
  /-- There are no more replies than requests. -/
  total : (turns.flatMap Turn.transmitted).length ≤
    turns.countP fun turn => ArpFrame.asks turn.frame

namespace Exchange

variable {outside : List Bytes} {turns : List Turn}

/-- Nothing that is transmitted in an exchange asks for anything. -/
theorem asks_of_mem (h : Exchange outside turns) :
    ∀ turn ∈ turns, ∀ reply ∈ turn.transmitted, ArpFrame.asks reply = false := by
  induction h with
  | start => exact List.forall_mem_nil _
  | handle _ _ responder hlinked htransmits ih =>
    refine List.forall_mem_append.2 ⟨ih, List.forall_mem_singleton.2 ?_⟩
    intro reply hreply
    exact (Responder.asks_of_reply? (Responder.reply?_of_transmits hlinked htransmits hreply)).2

/-- However responders are connected, there is at most one reply per request. -/
theorem oneReplyPerRequest (h : Exchange outside turns) : OneReplyPerRequest outside turns := by
  induction h with
  | start => exact ⟨List.forall_mem_nil _, List.forall_mem_nil _, Nat.le_refl 0⟩
  | @handle turns frame replies adapter earlier hframe responder hlinked htransmits ih =>
    have hturn := Responder.length_le_of_transmits hlinked htransmits
    have houtside : ArpFrame.asks frame = true → frame ∈ outside := by
      intro hasks
      rcases hframe with hmem | ⟨turn, hmem, hreply⟩
      · exact hmem
      · -- it was transmitted, and asks for nothing
        rw [earlier.asks_of_mem turn hmem frame hreply] at hasks
        cases hasks
    refine ⟨?_, ?_, ?_⟩
    · exact List.forall_mem_append.2 ⟨ih.outside, List.forall_mem_singleton.2 houtside⟩
    · exact List.forall_mem_append.2 ⟨ih.each, List.forall_mem_singleton.2 hturn⟩
    · rw [List.flatMap_append, List.flatMap_singleton, List.length_append, List.countP_append,
        List.countP_singleton]
      exact Nat.add_le_add ih.total hturn

end Exchange

/-- A request is replied to by the responder for the address that it asks for and by no other: the
reply tells the asking station the responder's hardware address, and where a slot is free it is all
that is transmitted. Whatever the frame, a responder leaves its device alone or transmits one frame,
and no responder replies to what a responder transmits. In whatever way responders hand each other
frames, there is at most one reply per request. -/
theorem handshake :
    (∀ (responder : Responder) (mac : Mac) (ip : Ipv4), ∃ reply : Bytes,
      reply.length = 42 ∧
      ArpFrame.decode reply = .ok
        ⟨responder.mac, ⟨1, 0x0800, 6, 4, 2, responder.mac, responder.ip, mac, ip⟩⟩ ∧
      EthernetHeader.parse? reply = some ⟨mac, responder.mac, EtherType.arp.toWord⟩ ∧
      (∀ {β : Type} [RegisterBus β] (adapter : Adapter β), adapter.HasRoom →
        (adapter.transmit reply).value.1 = .ok ()) ∧
      ∀ target : Ipv4,
        let frame := ArpFrame.request mac ip target
        (target = responder.ip → responder.RepliesWith frame reply) ∧
        (target ≠ responder.ip → responder.PassesOver frame) ∧
        ∀ adapter : Adapter Emulated, adapter.TxLinked → adapter.HasRoom →
          responder.Transmits adapter frame (if target = responder.ip then [reply] else [])) ∧
    (∀ (sender : Responder) (frame : Bytes),
      (∀ {β : Type} [RegisterBus β] (adapter : Adapter β),
        (sender.handle adapter frame).value.2 = adapter) ∨
      ∃ reply, sender.RepliesWith frame reply ∧
        ∀ receiver : Responder, receiver.PassesOver reply) ∧
    (∀ (sender receiver : Responder) (adapter : Adapter Emulated) (frame : Bytes)
        (replies : List Bytes), adapter.TxLinked → sender.Transmits adapter frame replies →
      ∀ reply ∈ replies, receiver.PassesOver reply) ∧
    ∀ (outside : List Bytes) (turns : List Turn),
      Exchange outside turns → OneReplyPerRequest outside turns := by
  refine ⟨?_, Responder.leaves_or_replies, ?_, fun _ _ h => h.oneReplyPerRequest⟩
  · intro responder mac ip
    refine ⟨ArpFrame.encode mac responder.mac
      ⟨1, 0x0800, 6, 4, 2, responder.mac, responder.ip, mac, ip⟩, ArpFrame.length_encode _ _ _,
      ArpFrame.decode_encode _ _ _, EthernetHeader.parse?_toBytes _ _, ?_, ?_⟩
    · intro β _ adapter hroom
      refine hroom.transmit ?_
      rw [ArpFrame.length_encode]
      decide
    · intro target frame
      have hreply := responder.reply?_request mac ip target
      by_cases htarget : target = responder.ip
      · subst htarget
        rw [if_pos rfl] at hreply ⊢
        exact ⟨fun _ => Responder.repliesWith_of_reply? hreply, fun hne => absurd rfl hne,
          fun adapter hlinked hroom => Responder.transmits_of_reply? hlinked hroom hreply⟩
      · rw [if_neg htarget] at hreply ⊢
        have hframe : (ArpFrame.decode frame).isOk = true := by
          show (ArpFrame.decode (ArpFrame.request mac ip target)).isOk = true
          rw [ArpFrame.request, ArpFrame.decode_encode]
          rfl
        exact ⟨fun heq => absurd heq htarget, fun _ => Responder.passesOver_of_none hframe hreply,
          fun adapter hlinked _ => Responder.transmits_of_none hlinked hreply⟩
  · intro sender receiver adapter frame replies hlinked htransmits reply hmem
    have hreply := Responder.reply?_of_transmits hlinked htransmits hmem
    exact Responder.passesOver_of_reply? hreply receiver

/-- The gateway asks for the host's address over a card that has sent nothing. The host's reply is
all that there is to send then, and the host itself passes over it. -/
theorem exists_handshake : ∃ (adapter next : Adapter Emulated) (reply : Bytes),
    let host : Responder := ⟨Host.ip, Host.mac⟩
    let request := ArpFrame.request Host.gateway ⟨10, 0, 2, 2⟩ Host.ip
    let turns : List Turn := [⟨request, [reply]⟩, ⟨reply, []⟩]
    adapter.TxLinked ∧ adapter.HasRoom ∧ adapter.bus.sent ++ adapter.outstanding = [] ∧
      (host.handle adapter request).value = (true, next) ∧
      next.bus.sent ++ next.outstanding = [reply] ∧
      (host.handle next reply).value = (true, next) ∧
      Exchange [request] turns ∧ OneReplyPerRequest [request] turns := by
  obtain ⟨hrequest, -, hpasses, hexchange⟩ := handshake
  obtain ⟨adapter, -, -, hsetUp⟩ := Adapter.exists_init true Host.mac Heap.start
  let host : Responder := ⟨Host.ip, Host.mac⟩
  let request := ArpFrame.request Host.gateway ⟨10, 0, 2, 2⟩ Host.ip
  obtain ⟨reply, -, -, -, -, hreply⟩ := hrequest host Host.gateway ⟨10, 0, 2, 2⟩
  obtain ⟨hreplies, -, htransmits⟩ := hreply Host.ip
  have htransmitted : host.Transmits adapter request [reply] := by
    have hsole := htransmits adapter hsetUp.txLinked hsetUp.hasRoom
    rw [if_pos rfl] at hsole
    exact hsole
  obtain ⟨hnothing, hframes⟩ := hsetUp.frames_of_transmits htransmitted
  have hvalue : (host.handle adapter request).value = (true, (adapter.transmit reply).value.2) :=
    hreplies rfl adapter
  rw [hvalue] at hframes
  have hlinked := (host.frames_eq_handle hsetUp.txLinked request).1
  rw [hvalue] at hlinked
  have hquiet : host.PassesOver reply :=
    hpasses host host adapter request [reply] hsetUp.txLinked htransmitted reply
      (List.mem_singleton_self _)
  have hsilent : host.Transmits (adapter.transmit reply).value.2 reply [] := by
    unfold Responder.Transmits
    rw [hquiet]
    exact (List.append_nil _).symm
  have hturns : Exchange [request] [⟨request, [reply]⟩, ⟨reply, []⟩] :=
    (Exchange.start.handle (.inl (List.mem_singleton_self request)) host hsetUp.txLinked
      htransmitted).handle
        (.inr ⟨_, List.mem_singleton_self _, List.mem_singleton_self reply⟩) host hlinked hsilent
  exact ⟨adapter, (adapter.transmit reply).value.2, reply, hsetUp.txLinked, hsetUp.hasRoom,
    hnothing, hvalue, hframes, hquiet _, hturns, hexchange _ _ hturns⟩

/-! ## Whom a reply names -/

namespace Responder

/-- The sender of a reply is the responder, at the address that was asked for, and its target is the
asking host at the hardware address that its frame came from. That is the sender of the request
exactly if the frame came from the hardware address that the request names. The reply is what the
responder transmits over any device, and all of it. -/
theorem swaps_iff {responder : Responder} {frame : Bytes} {request : ArpFrame}
    (hdecode : ArpFrame.decode frame = .ok request)
    (hanswers : responder.answers request.packet = true) :
    ∃ (reply : Bytes) (answer : ArpFrame), responder.RepliesWith frame reply ∧
      (∀ adapter : Adapter Emulated, adapter.TxLinked → adapter.HasRoom →
        responder.Transmits adapter frame [reply]) ∧
      ArpFrame.decode reply = .ok answer ∧ answer.packet.operation = ArpPacket.reply ∧
      (answer.packet.senderMac, answer.packet.senderIp) =
        (responder.mac, request.packet.targetIp) ∧
      (answer.packet.targetMac, answer.packet.targetIp) =
        (request.source, request.packet.senderIp) ∧
      ((answer.packet.targetMac, answer.packet.targetIp) =
          (request.packet.senderMac, request.packet.senderIp) ↔
        request.source = request.packet.senderMac) := by
  have hreply := reply?_eq_some_iff.2 ⟨request, hdecode, hanswers, rfl⟩
  have hanswer := ArpFrame.decode_encode request.source responder.mac
    (request.replyPacket responder.mac)
  refine ⟨_, _, repliesWith_of_reply? hreply,
    fun adapter hlinked hroom => transmits_of_reply? hlinked hroom hreply, hanswer, rfl, rfl, rfl,
    ?_⟩
  rw [Prod.mk.injEq]
  exact and_iff_left rfl

end Responder

/-- A request for the host's address that the gateway makes and another station hands on. -/
def ArpFrame.handedOn : ArpFrame where
  source := ⟨0x02, 0, 0, 0, 0, 0x01⟩
  packet := ⟨1, 0x0800, 6, 4, ArpPacket.request, Host.gateway, ⟨10, 0, 2, 2⟩, Mac.zero, Host.ip⟩

/-- The reply to a request that was handed on comes from the host, and its target is the station
that handed the request on. -/
theorem exists_swap : ∃ (adapter next : Adapter Emulated) (reply : Bytes) (answer : ArpFrame),
    let host : Responder := ⟨Host.ip, Host.mac⟩
    let frame := ArpFrame.encode Mac.broadcast ArpFrame.handedOn.source ArpFrame.handedOn.packet
    ArpFrame.decode frame = .ok ArpFrame.handedOn ∧
      host.answers ArpFrame.handedOn.packet = true ∧
      adapter.bus.sent ++ adapter.outstanding = [] ∧
      (host.handle adapter frame).value = (true, next) ∧
      next.bus.sent ++ next.outstanding = [reply] ∧ ArpFrame.decode reply = .ok answer ∧
      (answer.packet.senderMac, answer.packet.senderIp) = (Host.mac, Host.ip) ∧
      answer.packet.targetMac = ArpFrame.handedOn.source := by
  obtain ⟨adapter, -, -, hsetUp⟩ := Adapter.exists_init true Host.mac Heap.start
  let host : Responder := ⟨Host.ip, Host.mac⟩
  have hdecode := ArpFrame.decode_encode Mac.broadcast ArpFrame.handedOn.source
    ArpFrame.handedOn.packet
  have hanswers : host.answers ArpFrame.handedOn.packet = true := by decide
  obtain ⟨reply, answer, hreplies, htransmits, hanswer, -, hsender, htarget, -⟩ :=
    Responder.swaps_iff hdecode hanswers
  obtain ⟨hnothing, hframes⟩ :=
    hsetUp.frames_of_transmits (htransmits adapter hsetUp.txLinked hsetUp.hasRoom)
  rw [hreplies adapter] at hframes
  exact ⟨adapter, _, reply, answer, hdecode, hanswers, hnothing, hreplies adapter, hframes, hanswer,
    hsender, congrArg Prod.fst htarget⟩

/-- The reply to a request that was handed on is no swap of it: the host tells the gateway's address
together with the other station's hardware address. -/
theorem exists_unswapped : ∃ (adapter next : Adapter Emulated) (reply : Bytes) (answer : ArpFrame),
    let host : Responder := ⟨Host.ip, Host.mac⟩
    let frame := ArpFrame.encode Mac.broadcast ArpFrame.handedOn.source ArpFrame.handedOn.packet
    ArpFrame.decode frame = .ok ArpFrame.handedOn ∧
      host.answers ArpFrame.handedOn.packet = true ∧
      adapter.bus.sent ++ adapter.outstanding = [] ∧
      (host.handle adapter frame).value = (true, next) ∧
      next.bus.sent ++ next.outstanding = [reply] ∧ ArpFrame.decode reply = .ok answer ∧
      (answer.packet.targetMac, answer.packet.targetIp) ≠
        (ArpFrame.handedOn.packet.senderMac, ArpFrame.handedOn.packet.senderIp) := by
  obtain ⟨adapter, -, -, hsetUp⟩ := Adapter.exists_init true Host.mac Heap.start
  let host : Responder := ⟨Host.ip, Host.mac⟩
  have hdecode := ArpFrame.decode_encode Mac.broadcast ArpFrame.handedOn.source
    ArpFrame.handedOn.packet
  have hanswers : host.answers ArpFrame.handedOn.packet = true := by decide
  have hreply := Responder.reply?_eq_some_iff.2 ⟨_, hdecode, hanswers, rfl⟩
  have hvalue := Responder.repliesWith_of_reply? hreply adapter
  obtain ⟨hnothing, hframes⟩ := hsetUp.frames_of_transmits
    (Responder.transmits_of_reply? hsetUp.txLinked hsetUp.hasRoom hreply)
  rw [hvalue] at hframes
  exact ⟨adapter, _, ArpFrame.reply ArpFrame.handedOn host.mac, _, hdecode, hanswers, hnothing,
    hvalue, hframes, ArpFrame.decode_encode _ _ _, by decide⟩

end NetStack
