import NetStack.Proofs.OnesComplement

/-!
# The frames that are read as datagrams

Every frame that is long enough starts with three headers, whatever stands in them
(`Headers.exists_toBytes`). Such a frame is read as a datagram exactly when its headers announce
what follows them and, where the checksums are looked at, vouch for it (`decode_eq_ok_iff`). The
headers that are written in front of a payload do both, so what is written is read back
(`decode_written`).
-/

namespace NetStack

/-- Two bytes in front, one by one. -/
theorem Bytes.exists_pair {bytes : Bytes} (h : 2 ≤ bytes.length) :
    ∃ first second rest, bytes = first :: second :: rest ∧ bytes.length = rest.length + 2 := by
  match bytes with
  | first :: second :: rest => exact ⟨first, second, rest, rfl, rfl⟩

/-- Two bytes in front are a word. -/
theorem Bytes.exists_bytes16 {bytes : Bytes} (h : 2 ≤ bytes.length) :
    ∃ word rest, bytes = bytes16 word ++ rest ∧ bytes.length = rest.length + 2 := by
  obtain ⟨high, low, rest, hbytes, hlength⟩ := exists_pair h
  refine ⟨word16 high low, rest, ?_, hlength⟩
  rw [hbytes, bytes16_word16]
  rfl

/-- A word in front is read in one way only. -/
theorem Bytes.bytes16_append_inj {word word' : UInt16} {rest rest' : Bytes}
    (h : bytes16 word ++ rest = bytes16 word' ++ rest') : word = word' ∧ rest = rest' := by
  have hread := congrArg Reader.word16 h
  rw [Reader.word16_append, Reader.word16_append, Option.some.injEq, Prod.mk.injEq] at hread
  exact hread

/-- Four bytes in front are an address. -/
theorem Ipv4.exists_toBytes {bytes : Bytes} (h : 4 ≤ bytes.length) :
    ∃ ip rest, bytes = toBytes ip ++ rest ∧ bytes.length = rest.length + 4 := by
  match bytes with
  | a :: b :: c :: d :: rest => exact ⟨⟨a, b, c, d⟩, rest, rfl, rfl⟩

/-- Six bytes in front are a hardware address. -/
theorem Mac.exists_toBytes {bytes : Bytes} (h : 6 ≤ bytes.length) :
    ∃ mac rest, bytes = toBytes mac ++ rest ∧ bytes.length = rest.length + 6 := by
  match bytes with
  | b0 :: b1 :: b2 :: b3 :: b4 :: b5 :: rest =>
    exact ⟨⟨b0, b1, b2, b3, b4, b5⟩, rest, rfl, rfl⟩

/-- Fourteen bytes in front are an Ethernet header. -/
theorem EthernetHeader.exists_toBytes {bytes : Bytes} (h : size ≤ bytes.length) :
    ∃ header rest, bytes = toBytes header ++ rest ∧ bytes.length = rest.length + size := by
  have hsize : size = 14 := rfl
  obtain ⟨dest, afterDest, hdest, hlength⟩ := Mac.exists_toBytes (show 6 ≤ bytes.length by omega)
  obtain ⟨source, afterSource, hsource, hlength'⟩ :=
    Mac.exists_toBytes (show 6 ≤ afterDest.length by omega)
  obtain ⟨kind, rest, hkind, hrest⟩ :=
    Bytes.exists_bytes16 (show 2 ≤ afterSource.length by omega)
  refine ⟨⟨dest, source, kind⟩, rest, ?_, by omega⟩
  rw [hdest, hsource, hkind]
  simp only [toBytes, List.append_assoc]

/-- What is written for the checksum does not depend on the field that was read. -/
theorem IpHeader.layout_check (header : IpHeader) (check written : UInt16) :
    { header with check }.layout written = header.layout written := rfl

/-- Twenty bytes in front are an IPv4 header, with whatever checksum stands in it. -/
theorem IpHeader.exists_layout {bytes : Bytes} (h : size ≤ bytes.length) :
    ∃ header rest, bytes = layout header header.check ++ rest ∧
      bytes.length = rest.length + size := by
  have hsize : size = 20 := rfl
  obtain ⟨versionIhl, tos, afterTos, htos, hlength⟩ :=
    Bytes.exists_pair (show 2 ≤ bytes.length by omega)
  obtain ⟨totalLength, afterTotal, htotal, htotalLength⟩ :=
    Bytes.exists_bytes16 (show 2 ≤ afterTos.length by omega)
  obtain ⟨id, afterId, hid, hidLength⟩ :=
    Bytes.exists_bytes16 (show 2 ≤ afterTotal.length by omega)
  obtain ⟨fragment, afterFragment, hfragment, hfragmentLength⟩ :=
    Bytes.exists_bytes16 (show 2 ≤ afterId.length by omega)
  obtain ⟨ttl, protocol, afterProtocol, hprotocol, hprotocolLength⟩ :=
    Bytes.exists_pair (show 2 ≤ afterFragment.length by omega)
  obtain ⟨check, afterCheck, hcheck, hcheckLength⟩ :=
    Bytes.exists_bytes16 (show 2 ≤ afterProtocol.length by omega)
  obtain ⟨source, afterSource, hsource, hsourceLength⟩ :=
    Ipv4.exists_toBytes (show 4 ≤ afterCheck.length by omega)
  obtain ⟨dest, rest, hdest, hrest⟩ :=
    Ipv4.exists_toBytes (show 4 ≤ afterSource.length by omega)
  refine ⟨⟨versionIhl, tos, totalLength, id, fragment, ttl, protocol, check, source, dest⟩, rest,
    ?_, by omega⟩
  rw [htos, htotal, hid, hfragment, hprotocol, hcheck, hsource, hdest]
  simp only [layout, List.append_assoc]
  rfl

/-- Eight bytes in front are a UDP header. -/
theorem UdpHeader.exists_toBytes {bytes : Bytes} (h : size ≤ bytes.length) :
    ∃ header rest, bytes = toBytes header ++ rest ∧ bytes.length = rest.length + size := by
  have hsize : size = 8 := rfl
  obtain ⟨source, afterSource, hsource, hlength⟩ :=
    Bytes.exists_bytes16 (show 2 ≤ bytes.length by omega)
  obtain ⟨dest, afterDest, hdest, hlength'⟩ :=
    Bytes.exists_bytes16 (show 2 ≤ afterSource.length by omega)
  obtain ⟨length, afterLength, hlengthField, hlength''⟩ :=
    Bytes.exists_bytes16 (show 2 ≤ afterDest.length by omega)
  obtain ⟨check, rest, hcheck, hrest⟩ :=
    Bytes.exists_bytes16 (show 2 ≤ afterLength.length by omega)
  refine ⟨⟨source, dest, length, check⟩, rest, ?_, by omega⟩
  rw [hsource, hdest, hlengthField, hcheck]
  simp only [toBytes, List.append_assoc]

namespace Udp

/-- The three headers in front of a datagram's payload. -/
structure Headers where
  ethernet : EthernetHeader
  ip : IpHeader
  udp : UdpHeader

namespace Headers

/-- The headers as they stand on the wire. -/
def toBytes (headers : Headers) : Bytes :=
  headers.ethernet.toBytes ++ headers.ip.layout headers.ip.check ++ headers.udp.toBytes

@[simp] theorem length_toBytes (headers : Headers) : headers.toBytes.length = frameOverhead := rfl

/-- A frame that is long enough starts with three headers. -/
theorem exists_toBytes {frame : Bytes} (h : frameOverhead ≤ frame.length) :
    ∃ headers rest, frame = toBytes headers ++ rest := by
  have hsize : frameOverhead = EthernetHeader.size + IpHeader.size + UdpHeader.size := rfl
  obtain ⟨ethernet, packet, hethernet, hpacket⟩ :=
    EthernetHeader.exists_toBytes (show EthernetHeader.size ≤ frame.length by omega)
  obtain ⟨ip, segment, hip, hsegment⟩ :=
    IpHeader.exists_layout (show IpHeader.size ≤ packet.length by omega)
  obtain ⟨udp, rest, hudp, -⟩ :=
    UdpHeader.exists_toBytes (show UdpHeader.size ≤ segment.length by omega)
  refine ⟨⟨ethernet, ip, udp⟩, rest, ?_⟩
  rw [hethernet, hip, hudp]
  simp only [toBytes, List.append_assoc]

end Headers

/-- The number of a frame's kind stands at the end of its Ethernet header. -/
theorem kindOf?_toBytes_append (headers : Headers) (rest : Bytes) :
    Ethernet.kindOf? (headers.toBytes ++ rest) = some headers.ethernet.kind := by
  have hdrop : (headers.toBytes ++ rest).drop 12 = Bytes.bytes16 headers.ethernet.kind ++
      (headers.ip.layout headers.ip.check ++ (headers.udp.toBytes ++ rest)) := rfl
  unfold Ethernet.kindOf? Reader.parse?
  rw [hdrop, Reader.word16_append]
  rfl

/-- A refusal ends the reading. -/
theorem throw_bind {α : Type} (error : FrameError) (rest : PUnit → Except FrameError α) :
    (throw error >>= rest) = .error error := rfl

/-- The tests that a frame of three headers and more has to pass, in their order. -/
theorem decode_toBytes_append (headers : Headers) (rest : Bytes) (capacity : Nat) (verify : Bool) :
    decode (headers.toBytes ++ rest) capacity verify =
      let segment := (headers.udp.toBytes ++ rest).take headers.udp.length.toNat
      let payload := segment.drop UdpHeader.size
      if ¬headers.ethernet.kind = EtherType.ipv4.toWord then .error .notIpv4
      else if ¬headers.ip.version = 4 then .error .notIpv4
      else if ¬headers.ip.headerLength = IpHeader.size then .error .badHeaderLength
      else if ¬headers.ip.protocol = Checksum.udpProtocol then .error .notUdp
      else if headers.ip.totalLength.toNat ≠ headers.udp.length.toNat + IpHeader.size ∨
        headers.udp.length.toNat < UdpHeader.size then .error .lengthMismatch
      else if (headers.udp.toBytes ++ rest).length < headers.udp.length.toNat then .error .truncated
      else if verify ∧ ¬(Checksum.verify (headers.ip.layout headers.ip.check) ∧
        Checksum.verifyUdp headers.ip.source headers.ip.dest segment) then .error .badChecksum
      else if capacity < payload.length then .error .payloadTooLarge
      else .ok { src := headers.ip.source, sport := headers.udp.source,
                 dport := headers.udp.dest, payload } := by
  -- each header stands where the reader looks for it
  have hbehind : (headers.toBytes ++ rest).drop EthernetHeader.size =
      headers.ip.layout headers.ip.check ++ (headers.udp.toBytes ++ rest) := rfl
  have hsegment : (headers.ip.layout headers.ip.check ++ (headers.udp.toBytes ++ rest)).drop
      IpHeader.size = headers.udp.toBytes ++ rest := rfl
  have hpacket : (headers.ip.layout headers.ip.check ++ (headers.udp.toBytes ++ rest)).take
      IpHeader.size = headers.ip.layout headers.ip.check := rfl
  have hlength : ¬(headers.toBytes ++ rest).length < frameOverhead := by
    rw [List.length_append, Headers.length_toBytes]
    exact Nat.not_lt.2 (Nat.le_add_right _ _)
  simp only [decode, throw_bind, if_neg hlength, kindOf?_toBytes_append, hbehind, hsegment, hpacket,
    IpHeader.parse?_layout, UdpHeader.parse?_toBytes, Option.some.injEq, ite_not]
  rfl

/-- Headers announce a payload if they are those of a datagram of its length. The fragment field is
not among what is looked at. -/
structure Headers.Announce (headers : Headers) (payload : Bytes) : Prop where
  kind : headers.ethernet.kind = EtherType.ipv4.toWord
  version : headers.ip.version = 4
  headerLength : headers.ip.headerLength = IpHeader.size
  protocol : headers.ip.protocol = Checksum.udpProtocol
  totalLength : headers.ip.totalLength.toNat = headers.udp.length.toNat + IpHeader.size
  length : headers.udp.length.toNat = UdpHeader.size + payload.length

/-- Headers vouch for a payload if both checksums in them are right. -/
structure Headers.Vouch (headers : Headers) (payload : Bytes) : Prop where
  ip : Checksum.verify (headers.ip.layout headers.ip.check) = true
  segment : Checksum.verifyUdp headers.ip.source headers.ip.dest
    (headers.udp.toBytes ++ payload) = true

/-- A segment passes if the checksum field in its header is zero, or by its sum. -/
theorem verifyUdp_toBytes_append (src dst : Ipv4) (header : UdpHeader) (payload : Bytes) :
    Checksum.verifyUdp src dst (header.toBytes ++ payload) = true ↔
      header.check = 0 ∨ Checksum.udpComplement src dst (header.toBytes ++ payload) = 0 := by
  rw [Checksum.verifyUdp_iff]
  have hfield : (header.toBytes ++ payload).drop 6 = Bytes.bytes16 header.check ++ payload := rfl
  have hzero (rest : Bytes) : 0 :: 0 :: rest = Bytes.bytes16 0 ++ rest := rfl
  refine or_congr_left ⟨?_, fun hcheck => ⟨payload, ?_⟩⟩
  · rintro ⟨rest, hrest⟩
    rw [hfield, hzero] at hrest
    exact (Bytes.bytes16_append_inj hrest).1
  · rw [hfield, hcheck, hzero]

/-- The datagram of three headers and a payload. -/
def Headers.datagram (headers : Headers) (payload : Bytes) : Datagram where
  src := headers.ip.source
  sport := headers.udp.source
  dport := headers.udp.dest
  payload := payload

/-- What a segment is cut to that is as long as its header says. -/
theorem take_segment (header : UdpHeader) {payload : Bytes} (pad : Bytes)
    (h : header.length.toNat = UdpHeader.size + payload.length) :
    (header.toBytes ++ (payload ++ pad)).take header.length.toNat = header.toBytes ++ payload := by
  rw [← List.append_assoc]
  apply List.take_left'
  rw [List.length_append, UdpHeader.length_toBytes, h]

/-- A test that refuses is passed exactly where it does not apply and the rest of the reading
succeeds. -/
theorem ite_error_eq_ok_iff {p : Prop} [Decidable p] {error : FrameError}
    {rest : Except FrameError Datagram} {datagram : Datagram} :
    (if p then .error error else rest) = .ok datagram ↔ ¬p ∧ rest = .ok datagram := by
  by_cases hp : p
  · simp [hp]
  · simp [hp]

/-- Exactly those frames are read as datagrams that consist of headers, the payload that they
announce, and padding. -/
theorem decode_eq_ok_iff (frame : Bytes) (capacity : Nat) (verify : Bool) (datagram : Datagram) :
    decode frame capacity verify = .ok datagram ↔
      ∃ (headers : Headers) (payload pad : Bytes), frame = headers.toBytes ++ (payload ++ pad) ∧
        headers.Announce payload ∧ payload.length ≤ capacity ∧
        (verify = true → headers.Vouch payload) ∧ datagram = headers.datagram payload := by
  have hsize : UdpHeader.size = 8 := rfl
  constructor
  · intro h
    by_cases hlength : frame.length < frameOverhead
    · unfold decode at h
      rw [if_pos hlength] at h
      cases h
    obtain ⟨headers, rest, rfl⟩ := Headers.exists_toBytes (Nat.not_lt.1 hlength)
    -- the frame passes every test, and what it carries is cut from what follows the headers
    rw [decode_toBytes_append] at h
    simp only [ite_error_eq_ok_iff, Decidable.not_not, not_or, Except.ok.injEq] at h
    obtain ⟨hkind, hversion, hheader, hprotocol, ⟨htotal, hleast⟩, hshort, hsums, hroom, rfl⟩ := h
    have hbehind : headers.udp.length.toNat ≤ UdpHeader.size + rest.length := by
      simpa using hshort
    obtain ⟨size, hpayload⟩ : ∃ size, headers.udp.length.toNat = UdpHeader.size + size :=
      ⟨headers.udp.length.toNat - UdpHeader.size, by omega⟩
    have hcut : (rest.take size).length = size := by
      rw [List.length_take]
      omega
    have hlength' : headers.udp.length.toNat = UdpHeader.size + (rest.take size).length := by
      rw [hcut, hpayload]
    have hsegment := take_segment headers.udp (rest.drop size) hlength'
    rw [List.take_append_drop] at hsegment
    rw [hsegment] at hsums hroom ⊢
    have hdrop : (headers.udp.toBytes ++ rest.take size).drop UdpHeader.size = rest.take size :=
      List.drop_left' (UdpHeader.length_toBytes _)
    rw [hdrop] at hroom ⊢
    refine ⟨headers, rest.take size, rest.drop size, by rw [List.take_append_drop],
      ⟨hkind, hversion, hheader, hprotocol, htotal, hlength'⟩, Nat.not_lt.1 hroom, ?_, rfl⟩
    intro hverify
    have hboth := Decidable.not_not.1 fun h => hsums ⟨hverify, h⟩
    exact ⟨hboth.1, hboth.2⟩
  · rintro ⟨headers, payload, pad, rfl, hannounce, hroom, hvouch, rfl⟩
    have hlength := hannounce.length
    have hdrop : (headers.udp.toBytes ++ payload).drop UdpHeader.size = payload :=
      List.drop_left' (UdpHeader.length_toBytes _)
    rw [decode_toBytes_append]
    simp only [ite_error_eq_ok_iff, Decidable.not_not, not_or, Except.ok.injEq,
      take_segment headers.udp pad hlength, hdrop]
    refine ⟨hannounce.kind, hannounce.version, hannounce.headerLength, hannounce.protocol,
      ⟨hannounce.totalLength, by omega⟩, ?_, ?_, Nat.not_lt.2 hroom, rfl⟩
    · simp only [List.length_append, UdpHeader.length_toBytes]
      omega
    · rintro ⟨hverify, hsums⟩
      exact hsums ⟨(hvouch hverify).ip, (hvouch hverify).segment⟩

/-- The headers that are written in front of a payload. -/
def Headers.written (dst : Ipv4) (dport : UInt16) (src : Ipv4) (sport : UInt16)
    (payload : Bytes) : Headers :=
  let size := UdpHeader.size + payload.length
  let ip := IpHeader.udp src dst size
  let length := UInt16.ofNat size
  let blank : UdpHeader := { source := sport, dest := dport, length, check := 0 }
  { ethernet := { dest := Mac.zero, source := Mac.zero, kind := EtherType.ipv4.toWord }
    ip := { ip with check := ip.checksum }
    udp := { blank with check := Checksum.ofUdp src dst (blank.toBytes ++ payload) } }

/-- A written segment is the written UDP header and the payload. -/
theorem segment_eq (dst : Ipv4) (dport : UInt16) (src : Ipv4) (sport : UInt16) (payload : Bytes) :
    segment src dst sport dport payload =
      (Headers.written dst dport src sport payload).udp.toBytes ++ payload := rfl

/-- The written IPv4 header is laid out as it stands on the wire. -/
theorem layout_written (dst : Ipv4) (dport : UInt16) (src : Ipv4) (sport : UInt16)
    (payload : Bytes) :
    (Headers.written dst dport src sport payload).ip.layout
        (Headers.written dst dport src sport payload).ip.check =
      (IpHeader.udp src dst (UdpHeader.size + payload.length)).toBytes :=
  IpHeader.layout_check _ _ _

/-- A written frame is the written headers and the payload. -/
theorem frame_eq (dst : Ipv4) (dport : UInt16) (src : Ipv4) (sport : UInt16) (payload : Bytes) :
    frame dst dport src sport payload =
      (Headers.written dst dport src sport payload).toBytes ++ payload := by
  rw [frame, segment_eq, Headers.toBytes, layout_written, ← List.append_assoc]
  rfl

/-- Written headers announce the payload behind them: both lengths fit their 16 bits. -/
theorem announce_written (dst : Ipv4) (dport : UInt16) (src : Ipv4) (sport : UInt16)
    {payload : Bytes} (h : payload.length ≤ maxPayload) :
    (Headers.written dst dport src sport payload).Announce payload := by
  have hmax : maxPayload = 65507 := rfl
  have hsize : UdpHeader.size = 8 := rfl
  have hheader : IpHeader.size = 20 := rfl
  have hlength : (UInt16.ofNat (UdpHeader.size + payload.length)).toNat =
      UdpHeader.size + payload.length :=
    UInt16.toNat_ofNat_of_lt' (show _ < 65536 by omega)
  have htotal : (UInt16.ofNat (IpHeader.size + (UdpHeader.size + payload.length))).toNat =
      IpHeader.size + (UdpHeader.size + payload.length) :=
    UInt16.toNat_ofNat_of_lt' (show _ < 65536 by omega)
  -- version 4 in the high half, five 32-bit words in the low half
  have hversion : (0x45 : UInt8).toNat / 16 = 4 := by decide
  have hwords : (0x45 : UInt8).toNat % 16 * 4 = IpHeader.size := by decide
  refine ⟨rfl, hversion, hwords, rfl, ?_, hlength⟩
  show (UInt16.ofNat (IpHeader.size + (UdpHeader.size + payload.length))).toNat =
    (UInt16.ofNat (UdpHeader.size + payload.length)).toNat + IpHeader.size
  rw [htotal, hlength, Nat.add_comm]

/-- Written headers vouch for the payload behind them. -/
theorem vouch_written (dst : Ipv4) (dport : UInt16) (src : Ipv4) (sport : UInt16)
    {payload : Bytes} (h : payload.length ≤ maxPayload) :
    (Headers.written dst dport src sport payload).Vouch payload where
  ip := by
    rw [layout_written]
    exact IpHeader.verify_toBytes _
  segment := by
    rw [← segment_eq]
    exact (Checksum.verifyUdp_iff _ _ _).2 (.inr (udpComplement_segment src dst sport dport h))

/-- New hardware addresses change nothing in a frame but its Ethernet header. -/
theorem setAddresses_toBytes (headers : Headers) (rest : Bytes) (dest source : Mac) :
    Ethernet.setAddresses (headers.toBytes ++ rest) dest source =
      { headers with ethernet := { headers.ethernet with dest, source } }.toBytes ++ rest := rfl

/-- A written frame is read back by everyone with room for its payload, whatever its hardware
addresses are and whatever follows it: neither what is announced nor what is summed depends on
them. -/
theorem decode_setAddresses_frame (dst : Ipv4) (dport : UInt16) (src : Ipv4) (sport : UInt16)
    {payload : Bytes} (h : payload.length ≤ maxPayload) {capacity : Nat}
    (hroom : payload.length ≤ capacity) (dest source : Mac) (pad : Bytes) (verify : Bool) :
    decode (Ethernet.setAddresses (frame dst dport src sport payload) dest source ++ pad) capacity
      verify = .ok { src, sport, dport, payload } := by
  have hannounce := announce_written dst dport src sport h
  have hvouch := vouch_written dst dport src sport h
  have hdatagram : (Headers.written dst dport src sport payload).datagram payload =
      { src, sport, dport, payload } := rfl
  rw [frame_eq, setAddresses_toBytes, decode_eq_ok_iff]
  generalize Headers.written dst dport src sport payload = headers at hannounce hvouch hdatagram ⊢
  exact ⟨{ headers with ethernet := { headers.ethernet with dest, source } }, payload, pad,
    List.append_assoc _ _ _,
    ⟨hannounce.kind, hannounce.version, hannounce.headerLength, hannounce.protocol,
      hannounce.totalLength, hannounce.length⟩,
    hroom, fun _ => ⟨hvouch.ip, hvouch.segment⟩, hdatagram.symm⟩

/-- Exactly those datagrams are written that the protocol and the buffer have room for. -/
theorem encode_eq_ok_iff (buffer : Bytes) (dst : Ipv4) (dport : UInt16) (src : Ipv4)
    (sport : UInt16) (payload : Bytes) (length : Nat) (result : Bytes) :
    encode buffer dst dport src sport payload = .ok (length, result) ↔
      payload.length ≤ maxPayload ∧ length = frameOverhead + payload.length ∧
        length ≤ buffer.length ∧
        result = frame dst dport src sport payload ++ buffer.drop length := by
  unfold encode
  by_cases hlong : maxPayload < payload.length
  · simp only [if_pos hlong, reduceCtorEq, false_iff]
    omega
  by_cases hshort : buffer.length < frameOverhead + payload.length
  · simp only [if_neg hlong, if_pos hshort, reduceCtorEq, false_iff]
    omega
  · simp only [if_neg hlong, if_neg hshort, Except.ok.injEq, Prod.mk.injEq]
    constructor
    · rintro ⟨rfl, rfl⟩
      exact ⟨by omega, rfl, by omega, rfl⟩
    · rintro ⟨-, rfl, -, rfl⟩
      exact ⟨rfl, rfl⟩

/-- What is written first in the buffer is the frame. -/
theorem take_of_encode {buffer payload result : Bytes} {dst src : Ipv4} {dport sport : UInt16}
    {length : Nat} (h : encode buffer dst dport src sport payload = .ok (length, result)) :
    result.take length = frame dst dport src sport payload := by
  obtain ⟨-, rfl, -, rfl⟩ := (encode_eq_ok_iff _ _ _ _ _ _ _ _).1 h
  exact List.take_left' (length_frame _ _ _ _ _)

/-- A datagram is written if the protocol and the buffer have room for it, and every reader with
room for it reads it back, whatever hardware addresses are put into its frame, whatever follows it,
and whether or not the checksums are looked at. Both of them are right, and that of the segment is
never the zero that stands for none. -/
theorem decode_written (buffer : Bytes) (dst : Ipv4) (dport : UInt16) (src : Ipv4) (sport : UInt16)
    (payload : Bytes) :
    ((∃ length result, encode buffer dst dport src sport payload = .ok (length, result)) ↔
      payload.length ≤ maxPayload ∧ frameOverhead + payload.length ≤ buffer.length) ∧
    ∀ length result, encode buffer dst dport src sport payload = .ok (length, result) →
      (∀ (capacity : Nat) (pad : Bytes) (verify : Bool) (dest source : Mac),
        payload.length ≤ capacity →
        ∃ frame, Ethernet.setAddresses? (result.take length) dest source = some frame ∧
          decode (frame ++ pad) capacity verify = .ok { src, sport, dport, payload }) ∧
      (∃ udp, UdpHeader.parse? (result.drop (EthernetHeader.size + IpHeader.size)) = some udp ∧
        udp.check ≠ 0) ∧
      Checksum.verify ((result.drop EthernetHeader.size).take IpHeader.size) = true ∧
      Checksum.verifyUdp src dst
        ((result.take length).drop (EthernetHeader.size + IpHeader.size)) = true := by
  constructor
  · simp only [encode_eq_ok_iff]
    constructor
    · rintro ⟨_, _, hlong, rfl, hshort, rfl⟩
      exact ⟨hlong, hshort⟩
    · rintro ⟨hlong, hshort⟩
      exact ⟨_, _, hlong, rfl, hshort, rfl⟩
  intro length result hencode
  have htake := take_of_encode hencode
  obtain ⟨hlong, rfl, -, hresult⟩ := (encode_eq_ok_iff _ _ _ _ _ _ _ _).1 hencode
  have hvouch := vouch_written dst dport src sport hlong
  refine ⟨fun capacity pad verify dest source hroom => ?_, ?_, ?_, ?_⟩
  · have hlength : ¬(frame dst dport src sport payload).length < 12 := by
      have hoverhead : frameOverhead = 42 := rfl
      rw [length_frame]
      omega
    refine ⟨Ethernet.setAddresses (frame dst dport src sport payload) dest source, ?_,
      decode_setAddresses_frame dst dport src sport hlong hroom dest source pad verify⟩
    rw [htake]
    exact if_neg hlength
  · refine ⟨(Headers.written dst dport src sport payload).udp, ?_, Checksum.ofUdp_ne_zero _ _ _⟩
    rw [hresult, frame_eq]
    generalize Headers.written dst dport src sport payload = headers
    have hdrop (rest : Bytes) : (headers.toBytes ++ payload ++ rest).drop
        (EthernetHeader.size + IpHeader.size) = headers.udp.toBytes ++ (payload ++ rest) := rfl
    rw [hdrop, UdpHeader.parse?_toBytes]
  · rw [hresult, frame_eq]
    exact hvouch.ip
  · rw [htake, frame_eq]
    exact hvouch.segment

/-- The longest datagram of all, whose length is odd. -/
theorem exists_longest : ∃ (length : Nat) (result frame : Bytes),
    encode (List.replicate 65549 0) ⟨10, 0, 0, 2⟩ 9 ⟨10, 0, 0, 1⟩ 7
        (List.replicate maxPayload 0xAB) = .ok (length, result) ∧
      Ethernet.setAddresses? (result.take length) Mac.broadcast Mac.zero = some frame ∧
      decode (frame ++ [1, 2, 3]) maxPayload true =
        .ok ⟨⟨10, 0, 0, 1⟩, 7, 9, List.replicate maxPayload 0xAB⟩ := by
  have hroom : frameOverhead + (List.replicate maxPayload (0xAB : UInt8)).length ≤
      (List.replicate 65549 (0 : UInt8)).length := by
    rw [List.length_replicate, List.length_replicate]
    decide
  obtain ⟨hwritten, hread⟩ := decode_written (List.replicate 65549 0) ⟨10, 0, 0, 2⟩ 9
    ⟨10, 0, 0, 1⟩ 7 (List.replicate maxPayload 0xAB)
  obtain ⟨length, result, hencode⟩ := hwritten.2 ⟨Nat.le_of_eq List.length_replicate, hroom⟩
  obtain ⟨frame, hframe, hdecode⟩ :=
    (hread length result hencode).1 maxPayload [1, 2, 3] true Mac.broadcast Mac.zero
      (Nat.le_of_eq List.length_replicate)
  exact ⟨length, result, frame, hencode, hframe, hdecode⟩

end Udp

end NetStack
