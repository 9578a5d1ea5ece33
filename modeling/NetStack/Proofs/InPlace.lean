import NetStack.Proofs.Grammar

/-!
# Frames put together in place

A sender puts its frames together in a buffer that it has used before, in several passes:
`Udp.encodeInPlace` fills the frame with zeros, writes the headers and the payload at their places,
sums what then stands there, and writes the checksums over their blank fields. It refuses before the
first pass, and no pass is out of bounds. What the passes leave in the buffer is the frame that
`Udp.encode` puts there, with nothing of what was there before (`Udp.encodeInPlace_eq`), so encoding
writes all of a frame or nothing (`Udp.encode_allOrNothing`).
-/

namespace NetStack

/-- A program that works on a buffer in place. It comes to nothing where it goes out of bounds; the
buffer is there afterwards, whatever the program answers. -/
abbrev InPlace := StateT Bytes Option

namespace InPlace

/-- Writes a block over the bytes from one place up to another, which must be as many. -/
def write (first last : Nat) (block : Bytes) : InPlace Unit := fun buffer =>
  if first ≤ last ∧ last ≤ buffer.length ∧ block.length = last - first then
    some ((), buffer.take first ++ (block ++ buffer.drop last))
  else
    none

/-- Reads the bytes from one place up to another. -/
def read (first last : Nat) : InPlace Bytes := fun buffer =>
  (buffer.slice? first last).map (·, buffer)

/-- What follows a program goes on with what it leaves. -/
theorem bind_of_eq {α γ : Type} {program : InPlace α} {next : α → InPlace γ}
    {buffer between : Bytes} {value : α} (h : program buffer = some (value, between)) :
    (program >>= next) buffer = next value between := by
  rw [Reader.bind_apply, h]
  rfl

variable {first last : Nat}

/-- A block takes the place of the bytes between what is in front of it and what is behind it. -/
theorem write_append (front : Bytes) {old block : Bytes} (rest : Bytes)
    (hfirst : front.length = first) (hlast : first + block.length = last)
    (hold : old.length = block.length) :
    write first last block (front ++ (old ++ rest)) = some ((), front ++ (block ++ rest)) := by
  have hrange : first ≤ last ∧ last ≤ (front ++ (old ++ rest)).length ∧
      block.length = last - first := by
    rw [List.length_append, List.length_append]
    omega
  have htake : (front ++ (old ++ rest)).take first = front := List.take_left' hfirst
  have hdrop : (front ++ (old ++ rest)).drop last = rest := by
    rw [← List.append_assoc]
    apply List.drop_left'
    rw [List.length_append]
    omega
  unfold write
  rw [if_pos hrange, htake, hdrop]

/-- The bytes between what is in front of them and what is behind them are read. -/
theorem read_append (front middle rest : Bytes) (hfirst : front.length = first)
    (hlast : first + middle.length = last) :
    read first last (front ++ (middle ++ rest)) = some (middle, front ++ (middle ++ rest)) := by
  have hwithin : last ≤ (front ++ (middle ++ rest)).length := by
    rw [List.length_append, List.length_append]
    omega
  have hslice : (front ++ (middle ++ rest)).slice? first last = some middle := by
    rw [Bytes.slice?_of_le (by omega) hwithin, List.drop_left' hfirst]
    exact congrArg some (List.take_left' (by omega))
  unfold read
  rw [hslice]
  rfl

end InPlace

namespace IpHeader

/-- Writes a header at a place: first with a zero checksum, and then the checksum of the bytes that
stand there. -/
def emitInPlace (header : IpHeader) (place : Nat) : InPlace Unit := do
  InPlace.write place (place + size) (header.layout 0)
  let written ← InPlace.read place (place + size)
  InPlace.write (place + 10) (place + 12) (Bytes.bytes16 (Checksum.ofBytes written))

/-- The checksum stands behind the first ten bytes of a header. -/
theorem exists_layout_eq (header : IpHeader) : ∃ before behind : Bytes, before.length = 10 ∧
    ∀ check, header.layout check = before ++ (Bytes.bytes16 check ++ behind) :=
  ⟨header.layout 0 |>.take 10, header.layout 0 |>.drop 12, rfl, fun _ => rfl⟩

/-- A header that is written in two passes is the one with its checksum filled in. -/
theorem emitInPlace_append (header : IpHeader) (front : Bytes) {old : Bytes} (rest : Bytes)
    {place : Nat} (hplace : front.length = place) (hold : old.length = size) :
    header.emitInPlace place (front ++ (old ++ rest)) =
      some ((), front ++ (header.toBytes ++ rest)) := by
  obtain ⟨before, behind, hbefore, hlayout⟩ := header.exists_layout_eq
  have hblank : InPlace.write place (place + size) (header.layout 0) (front ++ (old ++ rest)) =
      some ((), front ++ (header.layout 0 ++ rest)) :=
    InPlace.write_append front rest hplace rfl hold
  have hread : InPlace.read place (place + size) (front ++ (header.layout 0 ++ rest)) =
      some (header.layout 0, front ++ (header.layout 0 ++ rest)) :=
    InPlace.read_append front _ rest hplace rfl
  -- the second pass writes two bytes in the middle of what the first one wrote
  have hfilled : InPlace.write (place + 10) (place + 12) (Bytes.bytes16 header.checksum)
      (front ++ (header.layout 0 ++ rest)) = some ((), front ++ (header.toBytes ++ rest)) := by
    have hparts (check : UInt16) : front ++ (header.layout check ++ rest) =
        (front ++ before) ++ (Bytes.bytes16 check ++ (behind ++ rest)) := by
      simp only [hlayout, List.append_assoc]
    rw [toBytes, hparts, hparts]
    refine InPlace.write_append _ _ ?_ (Nat.add_assoc place 10 2) rfl
    rw [List.length_append, hplace, hbefore]
  unfold emitInPlace
  rw [InPlace.bind_of_eq hblank, InPlace.bind_of_eq hread]
  exact hfilled

end IpHeader

namespace Udp

/-! ## The passes -/

section Passes

variable (dst : Ipv4) (dport : UInt16) (src : Ipv4) (sport : UInt16) (payload : Bytes)

/-- The passes in which a frame is put together at the start of a buffer. -/
def layInPlace : InPlace Unit := do
  let length := 42 + payload.length
  let blank : UdpHeader := ⟨sport, dport, UInt16.ofNat (8 + payload.length), 0⟩
  InPlace.write 0 length (List.replicate length 0)
  InPlace.write 0 14 (EthernetHeader.toBytes ⟨Mac.zero, Mac.zero, EtherType.ipv4.toWord⟩)
  InPlace.write 34 42 blank.toBytes
  InPlace.write 42 length payload
  -- the segment is summed as it stands in the buffer
  let segment ← InPlace.read 34 length
  InPlace.write 34 42 { blank with check := Checksum.ofUdp src dst segment }.toBytes
  (IpHeader.udp src dst (8 + payload.length)).emitInPlace 14

/-- Puts the frame of a datagram into a buffer, if there is room for it. The answer is the length of
the frame. -/
def encodeInPlace : InPlace (Except FrameError Nat) := do
  let buffer ← get
  if maxPayload < payload.length then
    return .error .payloadTooLarge
  else if buffer.length < frameOverhead + payload.length then
    return .error .bufferTooSmall
  else
    layInPlace dst dport src sport payload
    return .ok (frameOverhead + payload.length)

end Passes

/-- A buffer by what stands in the places of the three headers and of the payload, and behind them.
-/
def staged (ethernet ip udp payload tail : Bytes) : Bytes :=
  ethernet ++ (ip ++ (udp ++ (payload ++ tail)))

variable {ethernet ip udp payload old : Bytes}

/-- The first pass leaves zeros in all places of a frame. -/
theorem write_zeros {size : Nat} (tail : Bytes) (hold : old.length = 42 + size) :
    InPlace.write 0 (42 + size) (List.replicate (42 + size) 0) (old ++ tail) =
      some ((), staged (List.replicate 14 0) (List.replicate 20 0) (List.replicate 8 0)
        (List.replicate size 0) tail) := by
  have hparts : staged (List.replicate 14 0) (List.replicate 20 0) (List.replicate 8 0)
      (List.replicate size 0) tail = List.replicate (42 + size) 0 ++ tail := by
    have hsplit : 42 + size = 14 + (20 + (8 + size)) := by omega
    rw [hsplit, ← List.replicate_append_replicate, ← List.replicate_append_replicate,
      ← List.replicate_append_replicate]
    simp only [staged, List.append_assoc]
  rw [hparts]
  refine InPlace.write_append [] tail rfl ?_ ?_
  · rw [List.length_replicate]
    exact Nat.zero_add _
  · rw [List.length_replicate, hold]

theorem write_ethernet (header : EthernetHeader) (ip udp payload tail : Bytes)
    (hold : old.length = 14) : InPlace.write 0 14 header.toBytes (staged old ip udp payload tail) =
      some ((), staged header.toBytes ip udp payload tail) :=
  InPlace.write_append [] _ rfl rfl hold

theorem write_udp (header : UdpHeader) (payload tail : Bytes) (hethernet : ethernet.length = 14)
    (hip : ip.length = 20) (hold : old.length = 8) :
    InPlace.write 34 42 header.toBytes (staged ethernet ip old payload tail) =
      some ((), staged ethernet ip header.toBytes payload tail) := by
  have hfront (udp : Bytes) : staged ethernet ip udp payload tail =
      (ethernet ++ ip) ++ (udp ++ (payload ++ tail)) := (List.append_assoc _ _ _).symm
  have hplace : (ethernet ++ ip).length = 34 := by rw [List.length_append, hethernet, hip]
  rw [hfront, hfront]
  exact InPlace.write_append _ _ hplace rfl hold

theorem write_payload (tail : Bytes) (hethernet : ethernet.length = 14) (hip : ip.length = 20)
    (hudp : udp.length = 8) (hold : old.length = payload.length) :
    InPlace.write 42 (42 + payload.length) payload (staged ethernet ip udp old tail) =
      some ((), staged ethernet ip udp payload tail) := by
  have hfront (data : Bytes) : staged ethernet ip udp data tail =
      (ethernet ++ (ip ++ udp)) ++ (data ++ tail) := by
    simp only [staged, List.append_assoc]
  have hplace : (ethernet ++ (ip ++ udp)).length = 42 := by
    rw [List.length_append, List.length_append, hethernet, hip, hudp]
  rw [hfront, hfront]
  exact InPlace.write_append _ tail hplace rfl hold

/-- The segment is the UDP header and the payload. -/
theorem read_segment (payload tail : Bytes) (hethernet : ethernet.length = 14)
    (hip : ip.length = 20) (hudp : udp.length = 8) :
    InPlace.read 34 (42 + payload.length) (staged ethernet ip udp payload tail) =
      some (udp ++ payload, staged ethernet ip udp payload tail) := by
  have hfront : staged ethernet ip udp payload tail =
      (ethernet ++ ip) ++ ((udp ++ payload) ++ tail) := by
    simp only [staged, List.append_assoc]
  have hplace : (ethernet ++ ip).length = 34 := by rw [List.length_append, hethernet, hip]
  rw [hfront]
  refine InPlace.read_append _ _ tail hplace ?_
  rw [List.length_append, hudp]
  omega

/-- The passes leave the frame in place of as many bytes, whatever those were. -/
theorem layInPlace_append (dst : Ipv4) (dport : UInt16) (src : Ipv4) (sport : UInt16)
    (tail : Bytes) (hold : old.length = 42 + payload.length) :
    layInPlace dst dport src sport payload (old ++ tail) =
      some ((), frame dst dport src sport payload ++ tail) := by
  let blank : UdpHeader := ⟨sport, dport, UInt16.ofNat (8 + payload.length), 0⟩
  let check := Checksum.ofUdp src dst (blank.toBytes ++ payload)
  have hzeros : (List.replicate 20 (0 : UInt8)).length = 20 := List.length_replicate
  have hip := (IpHeader.udp src dst (8 + payload.length)).emitInPlace_append
    (EthernetHeader.toBytes ⟨Mac.zero, Mac.zero, EtherType.ipv4.toWord⟩)
    ({ blank with check }.toBytes ++ (payload ++ tail)) rfl hzeros
  have hframe : staged (EthernetHeader.toBytes ⟨Mac.zero, Mac.zero, EtherType.ipv4.toWord⟩)
      (IpHeader.udp src dst (8 + payload.length)).toBytes { blank with check }.toBytes payload
      tail = frame dst dport src sport payload ++ tail := by
    simp only [staged, frame, segment, List.append_assoc]
    rfl
  unfold layInPlace
  rw [InPlace.bind_of_eq (write_zeros tail hold),
    InPlace.bind_of_eq (write_ethernet _ _ _ _ tail List.length_replicate),
    InPlace.bind_of_eq (write_udp _ _ tail rfl List.length_replicate List.length_replicate),
    InPlace.bind_of_eq (write_payload tail rfl List.length_replicate rfl List.length_replicate),
    InPlace.bind_of_eq (read_segment payload tail rfl List.length_replicate rfl),
    InPlace.bind_of_eq (write_udp _ payload tail rfl List.length_replicate rfl)]
  rw [← hframe]
  exact hip

/-- Putting a frame together in place comes to what encoding it does. A refusal leaves the buffer as
it was. -/
theorem encodeInPlace_eq (buffer : Bytes) (dst : Ipv4) (dport : UInt16) (src : Ipv4)
    (sport : UInt16) (payload : Bytes) :
    encodeInPlace dst dport src sport payload buffer =
      some (match encode buffer dst dport src sport payload with
        | .ok (length, after) => (.ok length, after)
        | .error fault => (.error fault, buffer)) := by
  have hget : (get : InPlace Bytes) buffer = some (buffer, buffer) := rfl
  unfold encodeInPlace encode
  rw [InPlace.bind_of_eq hget]
  by_cases hlong : maxPayload < payload.length
  · simp only [if_pos hlong]
    rfl
  by_cases hshort : buffer.length < frameOverhead + payload.length
  · simp only [if_neg hlong, if_pos hshort]
    rfl
  simp only [if_neg hlong, if_neg hshort]
  -- the passes work on the start of the buffer, and its rest stays
  have hfront : (buffer.take (42 + payload.length)).length = 42 + payload.length := by
    rw [List.length_take]
    exact Nat.min_eq_left (Nat.not_lt.1 hshort)
  have hlaid := layInPlace_append dst dport src sport (buffer.drop (42 + payload.length)) hfront
  rw [List.take_append_drop] at hlaid
  rw [InPlace.bind_of_eq hlaid]
  rfl

/-! ## All or nothing -/

/-- Bytes that are the frame of a payload, with its hardware addresses left zero. -/
structure Carries (payload frame : Bytes) : Prop where
  length : frame.length = 42 + payload.length
  addresses : frame.take 12 = List.replicate 12 0
  kind : frame.wordAt 12 = 0x0800
  totalLength : frame.wordAt 16 = 28 + payload.length
  verify : Checksum.verify ((frame.drop 14).take 20) = true
  udpLength : frame.wordAt 38 = 8 + payload.length
  payload : frame.drop 42 = payload

/-- A frame carries its payload: both lengths fit their 16 bits. -/
theorem carries_frame (dst : Ipv4) (dport : UInt16) (src : Ipv4) (sport : UInt16) {payload : Bytes}
    (h : payload.length ≤ maxPayload) : Carries payload (frame dst dport src sport payload) := by
  have hannounce := announce_written dst dport src sport h
  have hvouch := vouch_written dst dport src sport h
  have haddresses : (frame dst dport src sport payload).take 12 = List.replicate 12 0 := rfl
  rw [frame_eq] at haddresses ⊢
  generalize Headers.written dst dport src sport payload = headers
    at hannounce hvouch haddresses ⊢
  have htotal : Bytes.wordAt (headers.toBytes ++ payload) 16 = headers.ip.totalLength.toNat :=
    Bytes.wordAt_bytes16 headers.ip.totalLength
  have hlength : Bytes.wordAt (headers.toBytes ++ payload) 38 = headers.udp.length.toNat :=
    Bytes.wordAt_bytes16 headers.udp.length
  have hkind : Bytes.wordAt (headers.toBytes ++ payload) 12 = headers.ethernet.kind.toNat :=
    Bytes.wordAt_bytes16 headers.ethernet.kind
  refine ⟨List.length_append, haddresses, ?_, ?_, hvouch.ip, ?_, rfl⟩
  · rw [hkind, hannounce.kind]
    rfl
  · rw [htotal, hannounce.totalLength, hannounce.length]
    show 8 + payload.length + 20 = _
    omega
  · rw [hlength, hannounce.length]
    rfl

/-- A datagram is refused for its own length first, and then for that of the buffer. -/
theorem encode_eq_error_iff (buffer : Bytes) (dst : Ipv4) (dport : UInt16) (src : Ipv4)
    (sport : UInt16) (payload : Bytes) (fault : FrameError) :
    encode buffer dst dport src sport payload = .error fault ↔
      (fault = .payloadTooLarge ∧ maxPayload < payload.length) ∨
      (fault = .bufferTooSmall ∧ payload.length ≤ maxPayload ∧
        buffer.length < frameOverhead + payload.length) := by
  unfold encode
  by_cases hlong : maxPayload < payload.length
  · rw [if_pos hlong, Except.error.injEq]
    exact ⟨fun h => .inl ⟨h.symm, hlong⟩, fun h => h.elim (fun h => h.1.symm)
      fun h => absurd hlong (Nat.not_lt.2 h.2.1)⟩
  rw [if_neg hlong]
  by_cases hshort : buffer.length < frameOverhead + payload.length
  · rw [if_pos hshort, Except.error.injEq]
    exact ⟨fun h => .inr ⟨h.symm, Nat.not_lt.1 hlong, hshort⟩, fun h => h.elim
      (fun h => absurd h.2 hlong) fun h => h.1.symm⟩
  · rw [if_neg hshort]
    refine iff_of_false (by simp) ?_
    rintro (⟨-, h⟩ | ⟨-, -, h⟩)
    · exact hlong h
    · exact hshort h

/-- What is put together in place is encoded. -/
theorem encode_of_inPlace {buffer after payload : Bytes} {dst src : Ipv4} {dport sport : UInt16}
    {length : Nat}
    (h : encodeInPlace dst dport src sport payload buffer = some (.ok length, after)) :
    encode buffer dst dport src sport payload = .ok (length, after) := by
  rw [encodeInPlace_eq] at h
  cases hencode : encode buffer dst dport src sport payload with
  | error fault =>
    rw [hencode] at h
    cases h
  | ok result =>
    rw [hencode] at h
    cases h
    rfl

/-- What is encoded is a frame at the start of the buffer, and behind it what was there before. -/
theorem carries_of_encode {buffer after payload : Bytes} {dst src : Ipv4} {dport sport : UInt16}
    {length : Nat} (h : encode buffer dst dport src sport payload = .ok (length, after)) :
    after.length = buffer.length ∧ after.drop length = buffer.drop length ∧
      Carries payload (after.take length) := by
  have htake := take_of_encode h
  obtain ⟨hfits, rfl, hroom, hafter⟩ := (encode_eq_ok_iff _ _ _ _ _ _ _ _).1 h
  refine ⟨?_, ?_, ?_⟩
  · rw [hafter, List.length_append, List.length_drop, length_frame]
    omega
  · rw [hafter]
    exact List.drop_left' (length_frame _ _ _ _ _)
  · rw [htake]
    exact carries_frame dst dport src sport hfits

/-- Encoding a datagram writes all of its frame or nothing. A datagram that is too long, or has no
room in the buffer, leaves the whole buffer as it was. Every other one leaves its frame at the start
of the buffer, and what is behind the frame as it was; the frame is the same in every buffer,
whatever was in it. -/
theorem encode_allOrNothing (buffer : Bytes) (dst : Ipv4) (dport : UInt16) (src : Ipv4)
    (sport : UInt16) (payload : Bytes) :
    ∃ answer after, encodeInPlace dst dport src sport payload buffer = some (answer, after) ∧
      encode buffer dst dport src sport payload = answer.map (fun length => (length, after)) ∧
      (answer = .error .payloadTooLarge ↔ 65507 < payload.length) ∧
      (answer = .error .bufferTooSmall ↔
        payload.length ≤ 65507 ∧ buffer.length < 42 + payload.length) ∧
      (∀ length, answer = .ok length ↔ payload.length ≤ 65507 ∧
        42 + payload.length ≤ buffer.length ∧ length = 42 + payload.length) ∧
      (∀ fault, answer = .error fault → after = buffer) ∧
      ∀ length, answer = .ok length → after.length = buffer.length ∧
        after.drop length = buffer.drop length ∧ Carries payload (after.take length) ∧
        ∀ other otherLength otherAfter,
          encodeInPlace dst dport src sport payload other = some (.ok otherLength, otherAfter) →
            otherAfter.take otherLength = after.take length := by
  have hmax : maxPayload = 65507 := rfl
  have hoverhead : frameOverhead = 42 := rfl
  have hinPlace := encodeInPlace_eq buffer dst dport src sport payload
  cases hencode : encode buffer dst dport src sport payload with
  | error fault =>
    rw [hencode] at hinPlace
    have hfault := (encode_eq_error_iff buffer dst dport src sport payload fault).1 hencode
    refine ⟨.error fault, buffer, hinPlace, rfl, ?_, ?_, ?_, fun _ _ => rfl, ?_⟩
    · rcases hfault with ⟨rfl, hlong⟩ | ⟨rfl, hfits, -⟩
      · exact iff_of_true rfl hlong
      · exact iff_of_false (by simp) (Nat.not_lt.2 hfits)
    · rcases hfault with ⟨rfl, hlong⟩ | ⟨rfl, hfits, hshort⟩
      · exact iff_of_false (by simp) fun h => absurd hlong (Nat.not_lt.2 h.1)
      · exact iff_of_true rfl ⟨hfits, hshort⟩
    · intro length
      refine iff_of_false (by simp) fun h => ?_
      omega
    · intro length h
      cases h
  | ok result =>
    obtain ⟨length, after⟩ := result
    rw [hencode] at hinPlace
    obtain ⟨hkept, hbehind, hcarries⟩ := carries_of_encode hencode
    have htake := take_of_encode hencode
    obtain ⟨hfits, rfl, hroom, -⟩ := (encode_eq_ok_iff _ _ _ _ _ _ _ _).1 hencode
    refine ⟨.ok _, after, hinPlace, rfl, ?_, ?_, ?_, ?_, ?_⟩
    · exact iff_of_false (by simp) (Nat.not_lt.2 hfits)
    · exact iff_of_false (by simp) fun h => absurd h.2 (Nat.not_lt.2 hroom)
    · intro length
      rw [Except.ok.injEq]
      exact ⟨fun h => ⟨hfits, hroom, h.symm⟩, fun h => h.2.2.symm⟩
    · intro fault h
      cases h
    · intro length h
      cases h
      refine ⟨hkept, hbehind, hcarries, fun other otherLength otherAfter hother => ?_⟩
      rw [htake]
      exact take_of_encode (encode_of_inPlace hother)

/-- Three bytes in a buffer of 48 that holds an old frame: the first 45 bytes are what they would be
in a fresh buffer, and the last three stay. -/
theorem exists_reused_buffer : ∃ after fresh : Bytes,
    encodeInPlace ⟨10, 0, 2, 2⟩ 9 ⟨10, 0, 2, 15⟩ 7 [1, 2, 3] (List.replicate 48 0xEE) =
      some (.ok 45, after) ∧
    encodeInPlace ⟨10, 0, 2, 2⟩ 9 ⟨10, 0, 2, 15⟩ 7 [1, 2, 3] (List.replicate 45 0) =
      some (.ok 45, fresh) ∧
    after.take 45 = fresh.take 45 ∧ after.drop 45 = [0xEE, 0xEE, 0xEE] ∧
      Carries [1, 2, 3] (after.take 45) := by
  obtain ⟨answer, after, hafter, -, -, -, hok, -, hlaid⟩ := encode_allOrNothing
    (List.replicate 48 0xEE) ⟨10, 0, 2, 2⟩ 9 ⟨10, 0, 2, 15⟩ 7 [1, 2, 3]
  obtain ⟨answer', fresh, hfresh, -, -, -, hok', -, -⟩ := encode_allOrNothing
    (List.replicate 45 0) ⟨10, 0, 2, 2⟩ 9 ⟨10, 0, 2, 15⟩ 7 [1, 2, 3]
  obtain rfl := (hok 45).2 (by decide)
  obtain rfl := (hok' 45).2 (by decide)
  obtain ⟨-, hbehind, hcarries, hsame⟩ := hlaid 45 rfl
  exact ⟨after, fresh, hafter, hfresh, (hsame _ _ _ hfresh).symm, hbehind, hcarries⟩

end Udp

end NetStack
