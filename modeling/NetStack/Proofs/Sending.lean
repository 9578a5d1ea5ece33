import NetStack.Proofs.Framing
import NetStack.Proofs.Upkeep

/-!
# From a system call to the line

A send call checks its arguments, puts its payload into a frame, addresses the frame to the gateway
and hands it to the card, and each of these steps may refuse. `Transport.Posts` are the outcomes of
the last three, and `Syscall.send_spec` puts the check of the arguments in front of them. A frame
that is handed over is one that every verifying reader reads as the datagram that was sent
(`Transport.decode_outgoing`). A write call on a bound and connected socket is a send call with the
addresses of the socket (`Syscall.write_eq_send`).
-/

namespace NetStack

namespace Transport

/-- The frame in which a datagram leaves the host. -/
def outgoing {β : Type} (transport : Transport β) (dst : Ipv4) (dport sport : UInt16)
    (payload : Bytes) : Bytes :=
  Ethernet.setAddresses (Udp.frame dst dport transport.localIp sport payload) transport.gateway
    transport.localMac

/-- The headers of the frame in which a datagram leaves the host. -/
def outgoingHeaders {β : Type} (transport : Transport β) (dst : Ipv4) (dport sport : UInt16)
    (payload : Bytes) : Udp.Headers :=
  { Udp.Headers.written dst dport transport.localIp sport payload with
    ethernet := ⟨transport.gateway, transport.localMac, EtherType.ipv4.toWord⟩ }

/-- A frame that leaves the host consists of its headers and the payload. -/
theorem outgoing_eq {β : Type} (transport : Transport β) (dst : Ipv4) (dport sport : UInt16)
    (payload : Bytes) : transport.outgoing dst dport sport payload =
      (transport.outgoingHeaders dst dport sport payload).toBytes ++ payload := by
  rw [outgoing, Udp.frame_eq, Udp.setAddresses_toBytes]
  rfl

/-- A frame that leaves the host is as long as its headers and its payload. -/
theorem length_outgoing {β : Type} (transport : Transport β) (dst : Ipv4) (dport sport : UInt16)
    (payload : Bytes) : (transport.outgoing dst dport sport payload).length =
      Udp.frameOverhead + payload.length := by
  rw [outgoing_eq, List.length_append, Udp.Headers.length_toBytes]

/-- A frame that leaves the host is read as the datagram that was sent, checksums included. -/
theorem decode_outgoing {β : Type} (transport : Transport β) (dst : Ipv4) (dport sport : UInt16)
    {payload : Bytes} (h : payload.length ≤ Udp.maxPayload) {capacity : Nat}
    (hroom : payload.length ≤ capacity) (verify : Bool) :
    Udp.decode (transport.outgoing dst dport sport payload) capacity verify =
      .ok { src := transport.localIp, sport, dport, payload } := by
  have hread := Udp.decode_setAddresses_frame dst dport transport.localIp sport h hroom
    transport.gateway transport.localMac [] verify
  rw [List.append_nil] at hread
  exact hread

/-- What comes of sending a datagram, and what it makes of the transport. -/
inductive Posts (dst : Ipv4) (dport sport : UInt16) (payload : Bytes)
    (transport : Transport Emulated) : Except SendError Unit → Transport Emulated → Prop
  /-- No buffer holds its frame, and nothing happens. -/
  | unencoded (error : FrameError)
      (hlong : Host.frameCapacity < Udp.frameOverhead + payload.length) :
      Posts dst dport sport payload transport (.error (.encode error)) transport
  /-- The card takes no frame of that length. -/
  | tooLong (hfits : Udp.frameOverhead + payload.length ≤ Host.frameCapacity)
      (hlong : Host.txBufferSize < Udp.frameOverhead + payload.length) :
      Posts dst dport sport payload transport
        (.error (.transmit (.frameTooLarge (transport.outgoing dst dport sport payload).length
          Host.txBufferSize)))
        { transport with adapter := transport.adapter.countTxDropped }
  /-- The card has no descriptor left. -/
  | full (hfits : Udp.frameOverhead + payload.length ≤ Host.txBufferSize)
      (hfull : transport.adapter.bus.pending = Host.txRingSize) :
      Posts dst dport sport payload transport (.error (.transmit .ringFull))
        { transport with adapter := transport.adapter.countTxDropped }
  /-- The frame comes behind all frames that were sent or are outstanding. -/
  | taken {next : Adapter Emulated} (hfits : Udp.frameOverhead + payload.length ≤ Host.txBufferSize)
      (hroom : transport.adapter.bus.pending < Host.txRingSize)
      (hframes : next.bus.sent ++ next.outstanding = transport.adapter.bus.sent ++
        transport.adapter.outstanding ++ [transport.outgoing dst dport sport payload]) :
      Posts dst dport sport payload transport (.ok ()) { transport with adapter := next }

/-- The length of the payload and the number of pending descriptors decide about a datagram. -/
theorem send_spec {transport next : Transport Emulated} (h : transport.adapter.TxLinked)
    {dst : Ipv4} {dport sport : UInt16} {payload : Bytes} {outcome : Except SendError Unit}
    (hvalue : (transport.send dst dport sport payload).value = (outcome, next)) :
    Posts dst dport sport payload transport outcome next := by
  have hcapacity : Host.frameCapacity = 4096 := rfl
  have hmax : Udp.maxPayload = 65507 := rfl
  have hoverhead : Udp.frameOverhead = 42 := rfl
  have hblank : (List.replicate Host.frameCapacity (0 : UInt8)).length = 4096 :=
    List.length_replicate
  simp only [send] at hvalue
  split at hvalue
  · next error hencode =>
    -- what is not encoded finds no room in the buffer
    cases hvalue
    refine .unencoded error (Nat.lt_of_not_le fun hfits => ?_)
    have hwritten := (Udp.encode_eq_ok_iff (List.replicate Host.frameCapacity 0) dst dport
      transport.localIp sport payload _ _).2
      ⟨by omega, rfl, by rw [hblank]; omega, rfl⟩
    rw [hwritten] at hencode
    cases hencode
  · next length buffer hencode =>
    obtain ⟨hpayload, hlength, hroom, -⟩ := (Udp.encode_eq_ok_iff _ _ _ _ _ _ _ _).1 hencode
    rw [hblank] at hroom
    have hframe : Ethernet.setAddresses (buffer.take length) transport.gateway transport.localMac =
        transport.outgoing dst dport sport payload := by
      rw [Udp.take_of_encode hencode]
      rfl
    have hsize := transport.length_outgoing dst dport sport payload
    rw [hframe] at hvalue
    rcases htransmit : (transport.adapter.transmit
      (transport.outgoing dst dport sport payload)).value with ⟨sent, adapter⟩
    simp only [Logged.value_bind, htransmit] at hvalue
    cases h.transmit_spec htransmit with
    | tooLong hlong =>
      cases hvalue
      exact .tooLong (by omega) (by omega)
    | full hfits hfull =>
      cases hvalue
      exact .full (by omega) hfull
    | taken hroom hlinked hframes hstats =>
      cases hvalue
      -- a frame that is too long would not have been taken
      have hfits := Nat.not_lt.1 fun hlong => by
        rw [transport.adapter.transmit_of_tooLong hlong] at htransmit
        cases htransmit
      exact .taken (by omega) hroom hframes

end Transport

namespace Syscall

/-- The arguments of a send call that are out of their range: a payload of more than a page, or a
number that is no port. -/
def Outside (dport sport : UInt32) (payload : Bytes) : Prop :=
  Host.pageSize < payload.length ∨ 65535 < dport.toNat ∨ 65535 < sport.toNat

/-- A number in range is its port. -/
theorem checkPort_of_le {value : UInt32} (h : value.toNat ≤ 65535) :
    checkPort value = .ok (UInt16.ofNat value.toNat) :=
  if_pos (Nat.lt_succ_of_le h)

/-- A number out of range is an invalid argument. -/
theorem checkPort_of_lt {value : UInt32} (h : 65535 < value.toNat) :
    checkPort value = .error .invalidArgument :=
  if_neg (Nat.not_lt.2 h)

/-- The arguments of a send call are invalid if one of them is out of its range. -/
theorem sendArguments_of_outside {dport sport : UInt32} {payload : Bytes}
    (h : Outside dport sport payload) :
    sendArguments dport sport payload = .error .invalidArgument := by
  unfold sendArguments
  by_cases hlong : Host.pageSize < payload.length
  · rw [checkLength, if_pos hlong]
    rfl
  rw [checkLength, if_neg hlong]
  by_cases hdport : 65535 < dport.toNat
  · rw [checkPort_of_lt hdport]
    rfl
  have hsport := (h.resolve_left hlong).resolve_left hdport
  rw [checkPort_of_le (Nat.not_lt.1 hdport), checkPort_of_lt hsport]
  rfl

/-- The ports of a send call whose arguments are in their ranges. -/
theorem sendArguments_of_inside {dport sport : UInt32} {payload : Bytes}
    (h : ¬Outside dport sport payload) : sendArguments dport sport payload =
      .ok (UInt16.ofNat dport.toNat, UInt16.ofNat sport.toNat) := by
  unfold Outside at h
  have hlength : ¬Host.pageSize < payload.length := fun hlong => h (.inl hlong)
  unfold sendArguments
  rw [checkLength, if_neg hlength, checkPort_of_le (by omega), checkPort_of_le (by omega)]
  rfl

/-- Ports are never out of their range. -/
theorem inside_of_ports (dport sport : UInt16) {payload : Bytes}
    (h : payload.length ≤ Host.pageSize) :
    ¬Outside dport.toUInt32 sport.toUInt32 payload := by
  have hdport : dport.toUInt32.toNat < 65536 := dport.toNat_lt
  have hsport : sport.toUInt32.toNat < 65536 := sport.toNat_lt
  unfold Outside
  omega

/-- What a send call returns for an outcome. -/
def sendCode (payload : Bytes) (outcome : Except SendError Unit) : Int :=
  Errno.result ((outcome.mapError SendError.errno).map fun _ => payload.length)

/-- A send call refuses its arguments, or sends its payload. -/
theorem send_spec {stack next : Stack Emulated} (h : stack.adapter.TxLinked)
    {dst dport sport : UInt32} {payload : Bytes} {code : Int}
    (hvalue : (send stack dst dport sport payload).value = (code, next)) :
    (Outside dport sport payload ∧ code = Errno.invalidArgument.negated ∧ next = stack) ∨
    (¬Outside dport sport payload ∧ ∃ outcome transport,
      Transport.Posts (Ipv4.ofWord dst) (UInt16.ofNat dport.toNat) (UInt16.ofNat sport.toNat)
        payload stack.transport outcome transport ∧
      code = sendCode payload outcome ∧ next = { stack with transport }) := by
  unfold send at hvalue
  by_cases houtside : Outside dport sport payload
  · rw [sendArguments_of_outside houtside] at hvalue
    cases hvalue
    exact .inl ⟨houtside, rfl, rfl⟩
  · rw [sendArguments_of_inside houtside] at hvalue
    cases hvalue
    exact .inr ⟨houtside, _, _, Transport.send_spec h rfl, rfl, rfl⟩

/-- A write call on a bound and connected socket is a send call with the addresses of the socket. -/
theorem write_eq_send (stack : Stack Emulated) {fd : Int} (hfd : 0 ≤ fd) {localPort : UInt16}
    {remote : Remote} (hsocket : stack.table.get? fd.toNat = some ⟨some localPort, some remote⟩)
    (payload : Bytes) : write stack fd payload =
      send stack remote.ip.toWord remote.port.toUInt32 localPort.toUInt32 payload := by
  have hget : stack.table.get fd.toNat = .ok ⟨some localPort, some remote⟩ := by
    rw [SocketTable.get, hsocket]
  have hdescriptor : checkDescriptor fd = .ok fd.toNat := if_neg (Int.not_lt.2 hfd)
  unfold write send bufferArguments
  by_cases hlong : Host.pageSize < payload.length
  · rw [sendArguments_of_outside (.inl hlong), checkLength, if_pos hlong]
    rfl
  have hport (port : UInt16) : port.toUInt32.toNat = port.toNat := rfl
  have hinside := inside_of_ports remote.port localPort (Nat.not_lt.1 hlong)
  have hchecked : (do checkLength payload; checkDescriptor fd) = .ok fd.toNat := by
    rw [checkLength, if_neg hlong, hdescriptor]
    rfl
  rw [sendArguments_of_inside hinside, hchecked, hport, hport, UInt16.ofNat_toNat,
    UInt16.ofNat_toNat, Ipv4.ofWord_toWord]
  simp only [Stack.write, hget]
  -- one answer is made of the outcome in two steps, the other in one
  rw [bind_assoc]
  congr 1
  funext ⟨outcome, next⟩
  cases outcome with
  | error error => rw [pure_bind]; rfl
  | ok => rw [pure_bind]; rfl

/-- A stack before and after a datagram was sent: one frame more was sent or is outstanding, which
goes to the gateway and carries the datagram for everyone who reads it. -/
structure Posted (dst : Ipv4) (dport sport : UInt16) (payload : Bytes)
    (stack next : Stack Emulated) (frame : Bytes) : Prop where
  queued : next.adapter.bus.sent ++ next.adapter.outstanding =
    stack.adapter.bus.sent ++ stack.adapter.outstanding ++ [frame]
  length : frame.length = 42 + payload.length
  dest : frame.take 6 = stack.transport.gateway.toBytes
  source : (frame.drop 6).take 6 = stack.adapter.mac.toBytes
  ip : (frame.drop 30).take 4 = dst.toBytes
  read : Udp.decode frame Host.frameCapacity true =
    .ok { src := stack.transport.localIp, sport, dport, payload }
  table : next.table = stack.table
  backlog : next.backlog = stack.backlog

/-- Once the card takes the frame of a datagram, the datagram is sent. -/
theorem posted_of_taken {stack : Stack Emulated} {adapter : Adapter Emulated} {dst : Ipv4}
    {dport sport : UInt16} {payload : Bytes}
    (hfits : Udp.frameOverhead + payload.length ≤ Host.txBufferSize)
    (hframes : adapter.bus.sent ++ adapter.outstanding = stack.adapter.bus.sent ++
      stack.adapter.outstanding ++ [stack.transport.outgoing dst dport sport payload]) :
    Posted dst dport sport payload stack (stack.withAdapter adapter)
      (stack.transport.outgoing dst dport sport payload) := by
  have hoverhead : Udp.frameOverhead = 42 := rfl
  have hmax : Udp.maxPayload = 65507 := rfl
  have hcapacity : Host.frameCapacity = 4096 := rfl
  have hbuffer : Host.txBufferSize = 1518 := rfl
  have hparts := stack.transport.outgoing_eq dst dport sport payload
  constructor
  · exact hframes
  · exact stack.transport.length_outgoing dst dport sport payload
  · rw [hparts]
    rfl
  · rw [hparts]
    rfl
  · rw [hparts]
    rfl
  · exact stack.transport.decode_outgoing dst dport sport (by omega) (by omega) true
  · rfl
  · rfl

/-- A send call refuses arguments out of their range, then a payload for which the card has no
buffer, then any payload while all descriptors are outstanding; otherwise it answers with the length
of the payload, and exactly one frame more is on its way, which carries it. A write call on a bound
and connected socket is the same. -/
theorem send_result {stack : Stack Emulated} (h : Bench.Reachable stack)
    (dst dport sport : UInt32) (payload : Bytes) :
    (∀ code next, (send stack dst dport sport payload).value = (code, next) →
      (code = Errno.invalidArgument.negated ↔ Outside dport sport payload) ∧
      (¬Outside dport sport payload →
        (code = Errno.messageTooLong.negated ↔ Host.txBufferSize < payload.length + 42) ∧
        (payload.length + 42 ≤ Host.txBufferSize →
          (code = Errno.tryAgain.negated ↔ stack.adapter.bus.pending = Host.txRingSize) ∧
          (stack.adapter.bus.pending ≠ Host.txRingSize → code = payload.length ∧
            ∃ frame, Posted (Ipv4.ofWord dst) (UInt16.ofNat dport.toNat)
              (UInt16.ofNat sport.toNat) payload stack next frame)))) ∧
    ∀ (fd : Int) (localPort : UInt16) (remote : Remote), 0 ≤ fd →
      stack.table.get? fd.toNat = some ⟨some localPort, some remote⟩ →
      write stack fd payload =
        send stack remote.ip.toWord remote.port.toUInt32 localPort.toUInt32 payload := by
  have hoverhead : Udp.frameOverhead = 42 := rfl
  have hcapacity : Host.frameCapacity = 4096 := rfl
  have hbuffer : Host.txBufferSize = 1518 := rfl
  -- the length of a payload is never taken for an error
  have hnonneg (errno : Errno) : (payload.length : Int) ≠ errno.negated := by
    have hneg := errno.negated_lt_zero
    omega
  refine ⟨fun code next hvalue => ?_, fun fd localPort remote hfd hsocket =>
    write_eq_send stack hfd hsocket payload⟩
  rcases send_spec h.txLinked hvalue with ⟨houtside, rfl, rfl⟩ |
    ⟨hinside, outcome, transport, hposts, hcode, rfl⟩
  · exact ⟨iff_of_true rfl houtside, fun hinside => absurd houtside hinside⟩
  cases hposts with
  | unencoded error hlong =>
    have hcode' : code = Errno.messageTooLong.negated := hcode
    rw [hcode']
    refine ⟨iff_of_false (by decide) hinside, fun _ => ⟨iff_of_true rfl (by omega), ?_⟩⟩
    intro hfits
    omega
  | tooLong _ hlong =>
    have hcode' : code = Errno.messageTooLong.negated := hcode
    rw [hcode']
    refine ⟨iff_of_false (by decide) hinside, fun _ => ⟨iff_of_true rfl (by omega), ?_⟩⟩
    intro hfits
    omega
  | full hfits hfull =>
    have hcode' : code = Errno.tryAgain.negated := hcode
    rw [hcode']
    refine ⟨iff_of_false (by decide) hinside, fun _ => ⟨iff_of_false (by decide) (by omega), ?_⟩⟩
    intro _
    exact ⟨iff_of_true rfl hfull, fun hroom => absurd hfull hroom⟩
  | taken hfits hroom hframes =>
    have hcode' : code = payload.length := hcode
    rw [hcode']
    refine ⟨iff_of_false (hnonneg _) hinside, fun _ => ⟨iff_of_false (hnonneg _) (by omega), ?_⟩⟩
    intro _
    have hposted := posted_of_taken hfits hframes
    exact ⟨iff_of_false (hnonneg _) (Nat.ne_of_lt hroom), fun _ => ⟨rfl, _, hposted⟩⟩

/-- Three bytes that are sent as soon as a stack is set up. -/
theorem exists_posted : ∃ (stack next : Stack Emulated) (frame : Bytes), Bench.Reachable stack ∧
    (send stack 0x0A000202 9 7 [1, 2, 3]).value = (3, next) ∧
    Posted ⟨10, 0, 2, 2⟩ 9 7 [1, 2, 3] stack next frame := by
  obtain ⟨stack, hstart, hsetUp, -, -⟩ := Bench.exists_setUp true ⟨none, none, none⟩
  have hreachable := Bench.reachable_of_setUp hstart
  obtain ⟨hsend, -⟩ := send_result hreachable 0x0A000202 9 7 [1, 2, 3]
  rcases hvalue : (send stack 0x0A000202 9 7 [1, 2, 3]).value with ⟨code, next⟩
  have hinside : ¬Outside 9 7 [1, 2, 3] := by
    unfold Outside
    decide
  have hroom : stack.adapter.bus.pending ≠ Host.txRingSize := by
    rw [hsetUp.pending]
    decide
  obtain ⟨hcode, frame, hposted⟩ :=
    (((hsend code next hvalue).2 hinside).2 (by decide)).2 hroom
  rw [hcode] at hvalue
  exact ⟨stack, next, frame, hreachable, hvalue, hposted⟩

end Syscall

end NetStack
