import NetStack.Proofs.Grammar
import NetStack.Proofs.Ownership

/-!
# Pieces of packets

A packet that is too long for a link travels in pieces, and each piece is a packet of its own: the
fragment field of its header says where it belongs and whether more pieces follow. The host does not
put pieces together, and it does not look at the field: marking a frame as a piece changes nothing
in what is read from it, as long as the header's checksum is filled in (`decode_mark`).

A piece is therefore read as a datagram exactly if it starts like one, with a header that declares
the length of the piece (`decode_piece_eq_ok_iff`). The first piece of a datagram never does, since
the header in it declares the whole datagram (`decode_firstPiece`). Whether a later piece does is up
to whoever wrote the payload, and `exists_piece_received` is one that does.
-/

namespace NetStack

/-- A word of the first of two byte strings. -/
theorem Bytes.wordAt_append {first rest : Bytes} {place : Nat} (h : place + 1 < first.length) :
    (first ++ rest).wordAt place = first.wordAt place := by
  have hhigh : place < first.length := Nat.lt_of_succ_lt h
  simp only [wordAt, byteAt, List.getD_eq_getElem?_getD, List.getElem?_append_left h,
    List.getElem?_append_left hhigh]

namespace IpHeader

/-- Whether a packet is a piece of a larger one: more pieces follow it, or others stand in front. -/
def isPiece (header : IpHeader) : Bool :=
  header.fragment &&& 0x2000 != 0 || header.fragment &&& 0x1FFF != 0

/-- The header with another fragment field, and its checksum filled in. -/
def mark (header : IpHeader) (field : UInt16) : IpHeader :=
  let marked := { header with fragment := field }
  { marked with check := marked.checksum }

/-- A marked header holds its own checksum. -/
theorem verify_mark (header : IpHeader) (field : UInt16) :
    Checksum.verify ((header.mark field).layout (header.mark field).check) = true :=
  verify_toBytes { header with fragment := field }

end IpHeader

namespace Udp

/-- The headers of a frame whose packet is marked as a piece, or as none. -/
def Headers.mark (headers : Headers) (field : UInt16) : Headers :=
  { headers with ip := headers.ip.mark field }

/-- The fragment field decides nothing. -/
theorem decode_mark_congr (headers : Headers) (rest : Bytes) (field field' : UInt16)
    (capacity : Nat) (verify : Bool) :
    decode ((headers.mark field).toBytes ++ rest) capacity verify =
      decode ((headers.mark field').toBytes ++ rest) capacity verify := by
  have hsum := headers.ip.verify_mark field
  have hsum' := headers.ip.verify_mark field'
  rw [decode_toBytes_append, decode_toBytes_append]
  simp only [Headers.mark, hsum, hsum', true_and]
  rfl

/-- Whatever is read from a frame is read from it too when it is marked as a piece. -/
theorem decode_mark {headers : Headers} {rest : Bytes} {capacity : Nat} {verify : Bool}
    {datagram : Datagram} (h : decode (headers.toBytes ++ rest) capacity verify = .ok datagram)
    (field : UInt16) :
    decode ((headers.mark field).toBytes ++ rest) capacity verify = .ok datagram := by
  have hsum := headers.ip.verify_mark field
  rw [decode_toBytes_append] at h ⊢
  simp only [ite_error_eq_ok_iff, Decidable.not_not] at h ⊢
  obtain ⟨hkind, hversion, hheader, hprotocol, hlengths, hshort, hsums, hroom, hdatagram⟩ := h
  -- only the header's checksum covers the field, and it is right
  refine ⟨hkind, hversion, hheader, hprotocol, hlengths, hshort, ?_, hroom, hdatagram⟩
  rintro ⟨hverify, hwrong⟩
  refine hsums ⟨hverify, fun hboth => hwrong ⟨hsum, hboth.2⟩⟩

/-- The header of a piece of a UDP packet with the given header. -/
def pieceHeader (header : IpHeader) (field : UInt16) (data : Bytes) : IpHeader :=
  { header with
    versionIhl := 0x45
    totalLength := UInt16.ofNat (IpHeader.size + data.length)
    protocol := Checksum.udpProtocol }.mark field

/-- The header of a piece as it stands on the wire. -/
def pieceHead (header : IpHeader) (field : UInt16) (data : Bytes) : Bytes :=
  (pieceHeader header field data).layout (pieceHeader header field data).check

/-- The frame in which a piece of a UDP packet travels. -/
def pieceFrame (dest source : Mac) (header : IpHeader) (field : UInt16) (data : Bytes) : Bytes :=
  EthernetHeader.toBytes ⟨dest, source, EtherType.ipv4.toWord⟩ ++ pieceHead header field data ++
    data

/-- The length that the header of a piece declares. -/
theorem wordAt_pieceHead (header : IpHeader) (field : UInt16) {data : Bytes}
    (h : IpHeader.size + data.length < 65536) :
    (pieceHead header field data).wordAt 2 = IpHeader.size + data.length := by
  have hword := Bytes.wordAt_bytes16 (UInt16.ofNat (IpHeader.size + data.length))
  rw [UInt16.toNat_ofNat_of_lt' h] at hword
  exact hword

/-- The header of a piece sums to zero. -/
theorem rfc1071_pieceHead (header : IpHeader) (field : UInt16) (data : Bytes) :
    Checksum.rfc1071 (pieceHead header field data) = 0 :=
  (Checksum.verify_iff_rfc1071 (IpHeader.total_layout_lt _ _)).1 (IpHeader.verify_mark _ _)

/-- A piece is read as a datagram exactly if its data start with a header that declares their
length, and are summed where the checksums are looked at. -/
theorem decode_piece_eq_ok_iff (dest source : Mac) (header : IpHeader) (field : UInt16)
    {data : Bytes} (h : IpHeader.size + data.length < 65536) (pad : Bytes) (capacity : Nat)
    (verify : Bool) (datagram : Datagram) :
    decode (pieceFrame dest source header field data ++ pad) capacity verify = .ok datagram ↔
      8 ≤ data.length ∧ data.wordAt 4 = data.length ∧ data.length ≤ 8 + capacity ∧
        (verify = true → data.wordAt 6 = 0 ∨
          Checksum.rfc1071 (pseudoBytes (pieceHead header field data) data ++ data) = 0) ∧
        datagram = datagramOf (pieceHead header field data) (data.take 8) (data.drop 8) := by
  have htotal := wordAt_pieceHead header field h
  have hsummed := rfc1071_pieceHead header field data
  have hsize : IpHeader.size = 20 := rfl
  rw [decode_eq_ok_iff_grammar]
  constructor
  · rintro ⟨ethernet, ip, udp, payload, pad', hframe, hgrammar, hroom, hsums, rfl⟩
    -- the headers are where they were put, and the two lengths leave the data for the rest
    unfold pieceFrame at hframe
    simp only [List.append_assoc] at hframe
    obtain ⟨-, hpacket⟩ := List.append_inj hframe (by rw [hgrammar.ethernet_length]; rfl)
    obtain ⟨rfl, hbehind⟩ := List.append_inj hpacket (by rw [hgrammar.ip_length]; rfl)
    rw [← List.append_assoc] at hbehind
    have hdeclared := hgrammar.totalLength
    have hudp := hgrammar.udp_length
    have hlength : data.length = (udp ++ payload).length := by
      rw [List.length_append]
      omega
    obtain ⟨rfl, -⟩ := List.append_inj hbehind hlength
    rw [List.length_append] at *
    refine ⟨by omega, ?_, by omega, fun hverify => (hsums hverify).2, ?_⟩
    · rw [Bytes.wordAt_append (by omega), hgrammar.length, hudp]
    · rw [List.take_left' hudp, List.drop_left' hudp]
  · rintro ⟨hleast, hdeclared, hroom, hsums, rfl⟩
    have hcut := List.take_append_drop 8 data
    have htake : (data.take 8).length = 8 := by
      rw [List.length_take]
      omega
    have hkind : (EthernetHeader.toBytes ⟨dest, source, EtherType.ipv4.toWord⟩).drop 12 =
        Bytes.bytes16 EtherType.ipv4.toWord := rfl
    refine ⟨EthernetHeader.toBytes ⟨dest, source, EtherType.ipv4.toWord⟩,
      pieceHead header field data, data.take 8, data.drop 8, pad, ?_,
      ⟨rfl, hkind.trans rfl, rfl, rfl, rfl, htake, ?_, ?_⟩, ?_, ?_, rfl⟩
    · rw [List.append_assoc _ (data.take 8), hcut]
      rfl
    · have hword : Bytes.wordAt (data.take 8 ++ data.drop 8) 4 = Bytes.wordAt (data.take 8) 4 :=
        Bytes.wordAt_append (by omega)
      rw [← hword, hcut, hdeclared, List.length_drop]
      omega
    · rw [htotal, List.length_drop]
      omega
    · rw [List.length_drop]
      omega
    · intro hverify
      rw [hcut]
      exact ⟨hsummed, hsums hverify⟩

/-- The first piece of a datagram is refused: the header in it declares the whole datagram. -/
theorem decode_firstPiece (dest source : Mac) (header : IpHeader) (field : UInt16)
    {udp : UdpHeader} {start later : Bytes} (hlong : (start ++ later).length ≤ maxPayload)
    (hwhole : udp.length.toNat = UdpHeader.size + (start ++ later).length) (hlater : later ≠ [])
    (pad : Bytes) (capacity : Nat) (verify : Bool) :
    decode (pieceFrame dest source header field (udp.toBytes ++ start) ++ pad) capacity verify =
      .error .lengthMismatch := by
  have hpositive := List.length_pos_iff.2 hlater
  have hsize : IpHeader.size = 20 := rfl
  have hmost : maxPayload = 65507 := rfl
  have hpiece : (udp.toBytes ++ start).length = UdpHeader.size + start.length :=
    List.length_append
  rw [List.length_append] at hlong hwhole
  have hudp : UdpHeader.size = 8 := rfl
  have htotal : (pieceHeader header field (udp.toBytes ++ start)).totalLength.toNat =
      IpHeader.size + (udp.toBytes ++ start).length :=
    UInt16.toNat_ofNat_of_lt' (by show _ < 65536; omega)
  have hmismatch : (pieceHeader header field (udp.toBytes ++ start)).totalLength.toNat ≠
      udp.length.toNat + IpHeader.size := by omega
  have hframe : pieceFrame dest source header field (udp.toBytes ++ start) ++ pad =
      Headers.toBytes ⟨⟨dest, source, EtherType.ipv4.toWord⟩,
        pieceHeader header field (udp.toBytes ++ start), udp⟩ ++ (start ++ pad) := by
    simp only [pieceFrame, pieceHead, Headers.toBytes, List.append_assoc]
  -- the tests in front are those of the header alone, and the header passes them
  have hversion : (pieceHeader header field (udp.toBytes ++ start)).version = 4 := by
    show (0x45 : UInt8).toNat / 16 = 4
    decide
  have hheader : (pieceHeader header field (udp.toBytes ++ start)).headerLength =
      IpHeader.size := by
    show (0x45 : UInt8).toNat % 16 * 4 = 20
    decide
  have hprotocol : (pieceHeader header field (udp.toBytes ++ start)).protocol =
      Checksum.udpProtocol := rfl
  rw [hframe, decode_toBytes_append]
  simp only [hversion, hheader, hprotocol, not_true_eq_false, if_false]
  exact if_pos (Or.inl hmismatch)

/-- Fragments are read like all other frames. The fragment field decides nothing, so that whatever
is read from a frame is read from it too when it is marked as a piece of a larger packet. A piece is
read exactly if it starts with a header that declares the length of the piece; the first piece of a
datagram never does, since the header in it declares the whole datagram. -/
theorem decode_pieces (capacity : Nat) (verify : Bool) :
    (∀ (headers : Headers) (rest : Bytes) (field field' : UInt16),
      decode ((headers.mark field).toBytes ++ rest) capacity verify =
        decode ((headers.mark field').toBytes ++ rest) capacity verify) ∧
    (∀ (frame : Bytes) (datagram : Datagram), decode frame capacity verify = .ok datagram →
      ∃ (headers : Headers) (rest : Bytes), frame = headers.toBytes ++ rest ∧
        ∀ field, decode ((headers.mark field).toBytes ++ rest) capacity verify = .ok datagram) ∧
    (∀ (dest source : Mac) (header : IpHeader) (field : UInt16) (data pad : Bytes)
      (datagram : Datagram), IpHeader.size + data.length < 65536 →
        (decode (pieceFrame dest source header field data ++ pad) capacity verify = .ok datagram ↔
          8 ≤ data.length ∧ data.wordAt 4 = data.length ∧ data.length ≤ 8 + capacity ∧
            (verify = true → data.wordAt 6 = 0 ∨
              Checksum.rfc1071 (pseudoBytes (pieceHead header field data) data ++ data) = 0) ∧
            datagram = datagramOf (pieceHead header field data) (data.take 8) (data.drop 8))) ∧
    (∀ (dest source : Mac) (header : IpHeader) (field : UInt16) (udp : UdpHeader)
      (start later pad : Bytes), (start ++ later).length ≤ maxPayload →
        udp.length.toNat = UdpHeader.size + (start ++ later).length → later ≠ [] →
        decode (pieceFrame dest source header field (udp.toBytes ++ start) ++ pad) capacity
          verify = .error .lengthMismatch) := by
  refine ⟨fun headers rest field field' => decode_mark_congr headers rest field field' _ _,
    fun frame datagram hread => ?_, ?_, ?_⟩
  · obtain ⟨headers, payload, pad, rfl, -⟩ := (decode_eq_ok_iff _ _ _ _).1 hread
    exact ⟨headers, payload ++ pad, rfl, decode_mark hread⟩
  · intro dest source header field data pad datagram hlength
    exact decode_piece_eq_ok_iff dest source header field hlength pad capacity verify datagram
  · intro dest source header field udp start later pad hlong hwhole hlater
    exact decode_firstPiece dest source header field hlong hwhole hlater pad capacity verify

end Udp

/-- A reader whose queue is empty takes the only datagram of the ring if it is for its port. -/
theorem Stack.exists_receiveOn_done {stack : Stack Emulated} {datagram : Datagram}
    (h : stack.adapter.RxLinked) (hqueue : stack.backlog.queue datagram.dport = [])
    (hone : datagrams Host.frameCapacity stack.adapter.stored = [datagram]) :
    ∃ next, (stack.receiveOn datagram.dport).value = (.done datagram, next) := by
  rcases hvalue : (stack.receiveOn datagram.dport).value with ⟨progress, next⟩
  rcases receiveOn_spec h hvalue with ⟨taken, rest, htake, -⟩ |
    ⟨consumed, passed, -, hpasses, hothers, hserved⟩
  · rw [(Backlog.take?_eq_none_iff _ _).2 hqueue] at htake
    cases htake
  have hall : datagrams Host.frameCapacity consumed ++
      datagrams Host.frameCapacity next.adapter.stored = [datagram] := by
    rw [← datagrams_append, ← hpasses.stored, hone]
  cases hserved with
  | @done found hport hfound =>
    have hmem : found ∈ [datagram] := by
      rw [← hall, hfound]
      simp
    rw [List.mem_singleton.1 hmem]
    exact ⟨next, rfl⟩
  | waiting hleft hpassed =>
    -- the datagram is for the reader's own port, so that it was not passed on
    rw [hleft, datagrams_nil, List.append_nil, hpassed] at hall
    exact absurd rfl (hothers datagram (by simp [hall]))

namespace Bench

/-- The last piece of a larger packet, whose data start with a header that declares their length. It
is read as a datagram, with and without a look at the checksums, and handed to the reader of port 7.
-/
theorem exists_piece_received : ∃ stack : Stack Emulated,
    (setUp (Emulated.start true) ⟨none, none, none⟩).value = .ok stack ∧
      let header : IpHeader :=
        { IpHeader.udp ⟨10, 0, 2, 2⟩ ⟨10, 0, 2, 15⟩ 0 with id := 0x1234, ttl := 0x40 }
      let data : Bytes := [0x00, 0x09, 0x00, 0x07, 0x00, 0x0b, 0x00, 0x00, 0x01, 0x02, 0x03]
      let frame := Udp.pieceFrame Host.mac Host.gateway header 0x00b9 data
      let arrived := ((stackSystem Emulated).run (.act (.control (.inject frame))) stack).value.2
      (Udp.pieceHeader header 0x00b9 data).isPiece = true ∧
        (∀ verify, Udp.decode frame 3 verify = .ok ⟨⟨10, 0, 2, 2⟩, 9, 7, [1, 2, 3]⟩) ∧
        ((stackSystem Emulated).enter (.receiveOn 7) arrived).value.1 =
          .finished (.datagram ⟨⟨10, 0, 2, 2⟩, 9, 7, [1, 2, 3]⟩) := by
  obtain ⟨stack, hvalue, hsetUp, -, hbacklog⟩ := exists_setUp true ⟨none, none, none⟩
  refine ⟨stack, hvalue, ?_⟩
  intro header data frame arrived
  have hread (capacity : Nat) (verify : Bool) (hroom : 3 ≤ capacity) :
      Udp.decode frame capacity verify = .ok ⟨⟨10, 0, 2, 2⟩, 9, 7, [1, 2, 3]⟩ := by
    have hpiece := (Udp.decode_piece_eq_ok_iff Host.mac Host.gateway header 0x00b9
      (show IpHeader.size + data.length < 65536 by decide) [] capacity verify
      ⟨⟨10, 0, 2, 2⟩, 9, 7, [1, 2, 3]⟩).2
      ⟨by decide, by decide, by show 11 ≤ 8 + capacity; omega, fun _ => .inl (by decide),
        by decide +kernel⟩
    rw [List.append_nil] at hpiece
    exact hpiece
  refine ⟨by decide +kernel, fun verify => hread 3 verify (Nat.le_refl _), ?_⟩
  -- the frame is stored, and it is the only one
  obtain ⟨full, hinjected, -, hfullBacklog, hlinked, hstored⟩ := exists_injected hsetUp.rxLinked
    (show frame.length ≤ Host.rxBufferSize by decide)
    (show stack.adapter.bus.filled stack.adapter.last + 1 < Host.rxRingSize by
      rw [hsetUp.filled]
      decide)
  have harrived : arrived = full := congrArg Prod.snd hinjected
  have hempty : stack.adapter.stored = [] := hsetUp.stored
  have hring : datagrams Host.frameCapacity full.adapter.stored =
      [⟨⟨10, 0, 2, 2⟩, 9, 7, [1, 2, 3]⟩] := by
    have hreceive : Udp.receive frame Host.frameCapacity = .ok ⟨⟨10, 0, 2, 2⟩, 9, 7, [1, 2, 3]⟩ :=
      hread Host.frameCapacity Host.verifyChecksums (by decide)
    rw [hstored, hempty, List.nil_append, datagrams_cons, hreceive]
    rfl
  have hqueue : full.backlog.queue 7 = [] := by
    rw [hfullBacklog, hbacklog]
    rfl
  obtain ⟨next, hdone⟩ := Stack.exists_receiveOn_done hlinked hqueue hring
  rw [harrived]
  show (enter (.receiveOn 7) full).value.1 = _
  simp only [enter, Call.check, resume, Logged.value_bind, hdone]
  rfl

end Bench

end NetStack
