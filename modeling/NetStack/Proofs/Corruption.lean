import NetStack.Proofs.Framing

/-!
# Corrupted frames

Replacing one word of a message moves the total of its words by a number that is not a multiple of
65535, unless zero and all ones are exchanged (`Altered.total_mod_ne`). So the sums over the IPv4
header and over the segment notice every other replacement in what they cover, and the hardware
addresses are no part of the datagram. One replacement switches a sum off instead of breaking it,
namely a zero in the place of the segment's checksum; it leaves the datagram as it was, since a
sender never writes that zero. Together: no replacement makes a verifying reader find another
datagram (`decode_altered`).
-/

namespace NetStack

/-- One byte string is another with one of its words replaced, or with its odd last byte replaced.
Zero and all ones do not replace each other: they are the two values that count as the same in a
one's-complement sum. -/
inductive Altered : Bytes → Bytes → Prop
  | word {front back : Bytes} {old new : UInt16} (heven : front.length % 2 = 0) (hne : old ≠ new)
      (hzero : ¬(old = 0 ∧ new = 0xFFFF)) (hones : ¬(old = 0xFFFF ∧ new = 0)) :
      Altered (front ++ (Bytes.bytes16 old ++ back)) (front ++ (Bytes.bytes16 new ++ back))
  | last {front : Bytes} {old new : UInt8} (heven : front.length % 2 = 0) (hne : old ≠ new) :
      Altered (front ++ [old]) (front ++ [new])

namespace Altered

/-- A replacement keeps the length. -/
theorem length_eq {bytes changed : Bytes} (h : Altered bytes changed) :
    changed.length = bytes.length := by
  cases h <;> simp only [List.length_append, Bytes.length_bytes16, List.length_singleton]

/-- A replacement in two byte strings in a row, the first of which ends between two words, is a
replacement in one of them. -/
theorem append_cases {first rest changed : Bytes} (heven : first.length % 2 = 0)
    (h : Altered (first ++ rest) changed) :
    (∃ first', Altered first first' ∧ changed = first' ++ rest) ∨
      (∃ rest', Altered rest rest' ∧ changed = first ++ rest') := by
  have hnil : ([] : Bytes).length % 2 = 0 := rfl
  generalize hwhole : first ++ rest = whole at h
  cases h with
  | @word front back old new hfront hne hzero hones =>
    rcases List.append_eq_append_iff.1 hwhole with ⟨between, rfl, rfl⟩ | ⟨between, rfl, hback⟩
    · -- the word stands in the second byte string, behind `between`
      have hbetween : between.length % 2 = 0 := by
        rw [List.length_append] at hfront
        omega
      exact .inr ⟨between ++ (Bytes.bytes16 new ++ back), .word hbetween hne hzero hones,
        List.append_assoc _ _ _⟩
    · -- the first byte string goes on behind `front`, by whole words
      rw [List.length_append] at heven
      rcases between with _ | ⟨high, _ | ⟨low, between⟩⟩
      · rw [List.nil_append] at hback
        rw [List.append_nil, ← hback]
        exact .inr ⟨Bytes.bytes16 new ++ back, .word hnil hne hzero hones, rfl⟩
      · rw [List.length_singleton] at heven
        omega
      · obtain ⟨hword, rfl⟩ : Bytes.bytes16 old = [high, low] ∧ back = between ++ rest :=
          List.append_inj hback rfl
        have hfirst : front ++ high :: low :: between =
            front ++ (Bytes.bytes16 old ++ between) := by
          rw [hword]
          rfl
        rw [hfirst]
        refine .inl ⟨front ++ (Bytes.bytes16 new ++ between), .word hfront hne hzero hones, ?_⟩
        simp only [List.append_assoc]
  | @last front old new hfront hne =>
    rcases List.append_eq_append_iff.1 hwhole with ⟨between, rfl, rfl⟩ | ⟨between, rfl, hback⟩
    · have hbetween : between.length % 2 = 0 := by
        rw [List.length_append] at hfront
        omega
      exact .inr ⟨between ++ [new], .last hbetween hne, List.append_assoc _ _ _⟩
    · -- there is no whole word left for the first byte string
      have hlength := congrArg List.length hback
      rw [List.length_singleton, List.length_append] at hlength
      rw [List.length_append] at heven
      have hnone : between = [] := List.eq_nil_of_length_eq_zero (by omega)
      rw [hnone, List.nil_append] at hback
      rw [hnone, List.append_nil, ← hback]
      exact .inr ⟨[new], .last hnil hne, rfl⟩

/-- A replacement moves the total of the words by no multiple of 65535. -/
theorem total_mod_ne {bytes changed : Bytes} (h : Altered bytes changed) :
    Checksum.total changed % 65535 ≠ Checksum.total bytes % 65535 := by
  cases h with
  | @word front back old new heven hne hzero hones =>
    have hold := old.toNat_lt
    have hnew := new.toNat_lt
    rw [Ne, ← UInt16.toNat_inj] at hne
    rw [← UInt16.toNat_inj, ← UInt16.toNat_inj] at hzero hones
    have hlow : (0 : UInt16).toNat = 0 := rfl
    have hhigh : (0xFFFF : UInt16).toNat = 65535 := rfl
    rw [hlow, hhigh] at hzero hones
    rw [Checksum.total_append _ heven, Checksum.total_append _ heven,
      Checksum.total_bytes16_append, Checksum.total_bytes16_append]
    omega
  | @last front old new heven hne =>
    have hold := old.toNat_lt
    have hnew := new.toNat_lt
    rw [Ne, ← UInt8.toNat_inj] at hne
    have hbyte (byte : UInt8) : Checksum.total [byte] = byte.toNat * 256 := by
      rw [Checksum.total, Bytes.toNat_word16]
      exact Nat.add_zero _
    rw [Checksum.total_append _ heven, Checksum.total_append _ heven, hbyte, hbyte]
    omega

end Altered

/-- An IPv4 header in front is read in one way only. -/
theorem IpHeader.layout_append_inj {header header' : IpHeader} {rest rest' : Bytes}
    (h : header.layout header.check ++ rest = header'.layout header'.check ++ rest') :
    header = header' ∧ rest = rest' := by
  have hread := congrArg parse? h
  rw [parse?_layout, parse?_layout, Option.some.injEq] at hread
  exact ⟨hread, (List.append_inj h rfl).2⟩

/-- A UDP header in front is read in one way only. -/
theorem UdpHeader.toBytes_append_inj {header header' : UdpHeader} {rest rest' : Bytes}
    (h : header.toBytes ++ rest = header'.toBytes ++ rest') : header = header' ∧ rest = rest' := by
  have hread := congrArg parse? h
  rw [parse?_toBytes, parse?_toBytes, Option.some.injEq] at hread
  exact ⟨hread, (List.append_inj h rfl).2⟩

namespace Udp

/-- A replacement of the checksum field replaces nothing else. -/
theorem eq_of_altered_check {header header' : UdpHeader} {payload payload' : Bytes}
    (halt : Altered (header.toBytes ++ payload) (header'.toBytes ++ payload'))
    (hcheck : header'.check ≠ header.check) :
    header'.source = header.source ∧ header'.dest = header.dest ∧ payload' = payload := by
  -- the field stands behind three words
  have hparts (udp : UdpHeader) (rest : Bytes) : udp.toBytes ++ rest =
      Bytes.bytes16 udp.source ++ (Bytes.bytes16 udp.dest ++ Bytes.bytes16 udp.length) ++
        (Bytes.bytes16 udp.check ++ rest) := by
    simp only [UdpHeader.toBytes, List.append_assoc]
  rw [hparts header, hparts header'] at halt
  have heven : (Bytes.bytes16 header.source ++
      (Bytes.bytes16 header.dest ++ Bytes.bytes16 header.length)).length % 2 = 0 := by
    simp only [List.length_append, Bytes.length_bytes16]
  rcases halt.append_cases heven with ⟨front, hfront, heq⟩ | ⟨behind, hbehind, heq⟩
  · have hsame := (List.append_inj heq (by rw [hfront.length_eq]; rfl)).2
    exact absurd (Bytes.bytes16_append_inj hsame).1 hcheck
  obtain ⟨hwords, rfl⟩ := List.append_inj heq rfl
  obtain ⟨hsource, hrest⟩ := Bytes.bytes16_append_inj hwords
  have hdest := (Bytes.bytes16_append_inj hrest).1
  have hword : (Bytes.bytes16 header.check).length % 2 = 0 := by
    rw [Bytes.length_bytes16]
  rcases hbehind.append_cases hword with ⟨field, hfield, heq⟩ | ⟨rest, hrest, heq⟩
  · exact ⟨hsource, hdest, (List.append_inj heq (by rw [hfield.length_eq]; rfl)).2⟩
  · exact absurd (Bytes.bytes16_append_inj heq).1 hcheck

/-- A segment whose checksum is right and not left out is not replaced in part by one that passes:
either the sum notices, or only the checksum itself was replaced. -/
theorem segment_of_altered {src dst : Ipv4} {header header' : UdpHeader}
    {payload payload' : Bytes}
    (halt : Altered (header.toBytes ++ payload) (header'.toBytes ++ payload'))
    (hshort : payload.length ≤ maxPayload) (hcheck : header.check ≠ 0)
    (hsum : Checksum.udpComplement src dst (header.toBytes ++ payload) = 0)
    (hverify : Checksum.verifyUdp src dst (header'.toBytes ++ payload') = true) :
    header'.source = header.source ∧ header'.dest = header.dest ∧ payload' = payload := by
  have hmax : maxPayload = 65507 := rfl
  have hsize : UdpHeader.size = 8 := rfl
  rcases (verifyUdp_toBytes_append src dst header' payload').1 hverify with hzero | hsum'
  · exact eq_of_altered_check halt (hzero ▸ hcheck.symm)
  · -- both sums are multiples of 65535, which the replacement rules out
    have hlength := halt.length_eq
    have hfits : (header.toBytes ++ payload).length < 65536 := by
      rw [List.length_append, UdpHeader.length_toBytes]
      omega
    have hmod := halt.total_mod_ne
    have htotal := ((Checksum.udpComplement_eq_zero_iff src dst hfits).1 hsum).2
    have htotal' := ((Checksum.udpComplement_eq_zero_iff src dst (hlength ▸ hfits)).1 hsum').2
    unfold Checksum.coveredTotal at htotal htotal'
    rw [hlength] at htotal'
    omega

/-- Headers that stand in a frame of their own stand there in one way only. -/
theorem Headers.toBytes_append (headers : Headers) (rest : Bytes) :
    headers.toBytes ++ rest = headers.ethernet.toBytes ++
      (headers.ip.layout headers.ip.check ++ (headers.udp.toBytes ++ rest)) := by
  simp only [Headers.toBytes, List.append_assoc]

/-- Two payloads that the same IPv4 header announces are equally long. -/
theorem length_eq_of_announce {headers headers' : Headers} {payload payload' : Bytes}
    (h : headers.Announce payload) (h' : headers'.Announce payload')
    (hsame : headers'.ip = headers.ip) : payload'.length = payload.length := by
  have hlength := h.length
  have hlength' := h'.length
  have htotal := h.totalLength
  have htotal' := h'.totalLength
  rw [hsame] at htotal'
  omega

/-- A payload that is as long as it was before has no padding behind it. -/
theorem eq_nil_of_length_append {payload payload' pad : Bytes}
    (hlength : payload'.length = payload.length)
    (hsame : (payload' ++ pad).length = payload.length) : pad = [] := by
  rw [List.length_append] at hsame
  exact List.eq_nil_of_length_eq_zero (by omega)

/-- A frame in which one word was replaced carries the same datagram as before, if both its
checksums are still right. -/
theorem datagram_of_altered {headers headers' : Headers} {payload payload' pad : Bytes}
    (halt : Altered (headers.toBytes ++ payload) (headers'.toBytes ++ (payload' ++ pad)))
    (hshort : payload.length ≤ maxPayload) (hannounce : headers.Announce payload)
    (hannounce' : headers'.Announce payload') (hvouch : headers.Vouch payload)
    (hvouch' : headers'.Vouch payload') (hcheck : headers.udp.check ≠ 0) :
    headers'.datagram payload' = headers.datagram payload := by
  rw [Headers.toBytes_append, Headers.toBytes_append headers'] at halt
  have hethernet : headers.ethernet.toBytes.length % 2 = 0 := by
    rw [EthernetHeader.length_toBytes, EthernetHeader.size]
  have hheader : (headers.ip.layout headers.ip.check).length % 2 = 0 := by
    rw [IpHeader.length_layout, IpHeader.size]
  rcases halt.append_cases hethernet with ⟨first, hfirst, heq⟩ | ⟨packet, hpacket, heq⟩
  · -- behind the hardware addresses and the kind everything is as before
    have hsame := (List.append_inj heq (by rw [hfirst.length_eq]; rfl)).2
    obtain ⟨hip, hsame⟩ := IpHeader.layout_append_inj hsame
    obtain ⟨hudp, hsame⟩ := UdpHeader.toBytes_append_inj hsame
    have hpad := eq_nil_of_length_append
      (length_eq_of_announce hannounce hannounce' hip) (congrArg List.length hsame)
    rw [hpad, List.append_nil] at hsame
    rw [Headers.datagram, Headers.datagram, hip, hudp, hsame]
  obtain ⟨-, rfl⟩ := List.append_inj heq rfl
  rcases hpacket.append_cases hheader with ⟨header, hchanged, heq⟩ | ⟨segment, hsegment, heq⟩
  · -- the sum over the IPv4 header notices
    have hsame := (List.append_inj heq (by rw [hchanged.length_eq]; rfl)).1
    rw [← hsame] at hchanged
    have hmod := hchanged.total_mod_ne
    have htotal := ((Checksum.verify_iff (IpHeader.total_layout_lt _ _)).1 hvouch.ip).2
    have htotal' := ((Checksum.verify_iff (IpHeader.total_layout_lt _ _)).1 hvouch'.ip).2
    omega
  · -- so does the sum over the segment, if it was not switched off
    obtain ⟨hip, rfl⟩ := IpHeader.layout_append_inj heq
    have hlength : (payload' ++ pad).length = payload.length := by
      have hlength := hsegment.length_eq
      rw [List.length_append, @List.length_append _ _ payload] at hlength
      exact Nat.add_left_cancel hlength
    have hpad := eq_nil_of_length_append (length_eq_of_announce hannounce hannounce' hip) hlength
    rw [hpad, List.append_nil] at hsegment
    have hsum := ((verifyUdp_toBytes_append _ _ _ _).1 hvouch.segment).resolve_left hcheck
    have hverify := hvouch'.segment
    rw [hip] at hverify
    obtain ⟨hsource, hdest, hpayload⟩ := segment_of_altered hsegment hshort hcheck hsum hverify
    rw [Headers.datagram, Headers.datagram, hip, hsource, hdest, hpayload]

/-- Corruption of one word is never taken for another datagram when the checksums are looked at:
the frame is refused, or read as the datagram that was written. -/
theorem decode_altered {buffer payload result corrupted : Bytes} {dst src : Ipv4}
    {dport sport : UInt16} {length : Nat}
    (hencode : encode buffer dst dport src sport payload = .ok (length, result))
    (halt : Altered (result.take length) corrupted) (capacity : Nat) :
    (∃ error, decode corrupted capacity true = .error error) ∨
      decode corrupted capacity true = .ok { src, sport, dport, payload } := by
  have hshort := ((encode_eq_ok_iff _ _ _ _ _ _ _ _).1 hencode).1
  rw [take_of_encode hencode, frame_eq] at halt
  cases hdecode : decode corrupted capacity true with
  | error error => exact .inl ⟨error, rfl⟩
  | ok datagram =>
    obtain ⟨headers', payload', pad, rfl, hannounce', -, hvouch', rfl⟩ :=
      (decode_eq_ok_iff _ _ _ _).1 hdecode
    have hsame := datagram_of_altered halt hshort (announce_written dst dport src sport hshort)
      hannounce' (vouch_written dst dport src sport hshort) (hvouch' rfl)
      (Checksum.ofUdp_ne_zero _ _ _)
    rw [hsame]
    exact .inr rfl

/-- The last byte of an odd payload, changed. -/
theorem exists_altered : ∃ (length : Nat) (result corrupted : Bytes),
    encode (List.replicate 45 0) ⟨10, 0, 0, 2⟩ 9 ⟨10, 0, 0, 1⟩ 7 [0x61, 0x62, 0x63] =
        .ok (length, result) ∧
      Altered (result.take length) corrupted ∧
      ((∃ error, decode corrupted 16 true = .error error) ∨
        decode corrupted 16 true = .ok ⟨⟨10, 0, 0, 1⟩, 7, 9, [0x61, 0x62, 0x63]⟩) := by
  let front := (frame ⟨10, 0, 0, 2⟩ 9 ⟨10, 0, 0, 1⟩ 7 [0x61, 0x62, 0x63]).take 44
  have hencode : encode (List.replicate 45 0) ⟨10, 0, 0, 2⟩ 9 ⟨10, 0, 0, 1⟩ 7
      [0x61, 0x62, 0x63] = .ok (45, front ++ [0x63]) := rfl
  have hlength : front.length = 44 := rfl
  have htake : (front ++ [0x63]).take 45 = front ++ [0x63] := rfl
  have hne : (0x63 : UInt8) ≠ 0x64 := by decide
  have halt : Altered ((front ++ [0x63]).take 45) (front ++ [0x64]) := by
    rw [htake]
    exact .last (by rw [hlength]) hne
  exact ⟨45, front ++ [0x63], front ++ [0x64], hencode, halt, decode_altered hencode halt 16⟩

end Udp

end NetStack
