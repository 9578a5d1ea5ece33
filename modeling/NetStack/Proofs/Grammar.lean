import NetStack.Proofs.Framing

/-!
# The grammar of datagram frames

A frame is read as a datagram exactly when it is an Ethernet header, an IPv4 header without options,
a UDP header, the payload whose length both of them declare, and padding (`Grammar`); every other
frame is refused for the first of the tests that it fails (`tests`). Both are said of the bytes at
their places, and the checksums are those of RFC 1071. No range that the reading cuts out of a frame
is out of bounds, whatever the frame declares (`decodeChecked_run`).
-/

namespace NetStack

namespace Bytes

/-- The byte at a place; behind the end stands zero. -/
def byteAt (bytes : Bytes) (place : Nat) : Nat :=
  (bytes.getD place 0).toNat

/-- The word at a place, high byte first. -/
def wordAt (bytes : Bytes) (place : Nat) : Nat :=
  bytes.byteAt place * 256 + bytes.byteAt (place + 1)

/-- The bytes from one place up to another. A range that is inverted, or that ends behind the last
byte, is out of bounds. -/
def slice? (bytes : Bytes) (first last : Nat) : Option Bytes :=
  if first ≤ last ∧ last ≤ bytes.length then
    some ((bytes.drop first).take (last - first))
  else
    none

/-- A range within bounds. -/
theorem slice?_of_le {bytes : Bytes} {first last : Nat} (hfirst : first ≤ last)
    (hlast : last ≤ bytes.length) :
    bytes.slice? first last = some ((bytes.drop first).take (last - first)) :=
  if_pos ⟨hfirst, hlast⟩

/-- A range that goes up to the end. -/
theorem slice?_length {bytes : Bytes} {first : Nat} (h : first ≤ bytes.length) :
    bytes.slice? first bytes.length = some (bytes.drop first) := by
  rw [slice?_of_le h (Nat.le_refl _), List.take_of_length_le (Nat.le_of_eq List.length_drop)]

/-- The word of its own two bytes. -/
theorem wordAt_bytes16 (word : UInt16) : wordAt (bytes16 word) 0 = word.toNat := by
  have h := toNat_word16 (UInt8.ofNat (word.toNat / 256)) (UInt8.ofNat word.toNat)
  rw [word16_bytes16] at h
  exact h.symm

end Bytes

namespace Udp

/-! ## Frames by the places of their bytes -/

/-- The pseudo header of a segment: the addresses of the IPv4 header in front, the protocol, and the
length that the segment's own header declares. -/
def pseudoBytes (ip segment : Bytes) : Bytes :=
  ip.drop 12 ++ [0, 17] ++ (segment.drop 4).take 2

/-- An IPv4 header and a segment are summed if the header's checksum by RFC 1071 is zero and so is
that of the segment behind its pseudo header, unless the segment's was left out. -/
def Summed (ip segment : Bytes) : Prop :=
  Checksum.rfc1071 ip = 0 ∧
    (Bytes.wordAt segment 6 = 0 ∨ Checksum.rfc1071 (pseudoBytes ip segment ++ segment) = 0)

instance (ip segment : Bytes) : Decidable (Summed ip segment) :=
  inferInstanceAs (Decidable (_ ∧ _))

/-- Three byte strings are headers in front of a payload if they are as long as the headers, say
that the payload is a UDP datagram in an IPv4 packet without options, and declare its length. -/
structure Grammar (ethernet ip udp payload : Bytes) : Prop where
  ethernet_length : ethernet.length = 14
  kind : ethernet.drop 12 = [0x08, 0x00]
  ip_length : ip.length = 20
  versionIhl : ip.byteAt 0 = 0x45
  protocol : ip.byteAt 9 = 17
  udp_length : udp.length = 8
  length : udp.wordAt 4 = 8 + payload.length
  totalLength : ip.wordAt 2 = 28 + payload.length

/-- The datagram of an IPv4 header, a UDP header and a payload: the source address of the one, the
ports of the other, and the payload. -/
def datagramOf (ip udp payload : Bytes) : Datagram where
  src := ⟨ip.getD 12 0, ip.getD 13 0, ip.getD 14 0, ip.getD 15 0⟩
  sport := UInt16.ofNat (udp.wordAt 0)
  dport := UInt16.ofNat (udp.wordAt 2)
  payload := payload

/-- The tests of a frame in their order, each with the fault that it finds. -/
def tests (frame : Bytes) (capacity : Nat) (verify : Bool) : List (Bool × FrameError) :=
  let length := frame.wordAt 38
  [(42 ≤ frame.length, .truncated),
    (frame.wordAt 12 = 0x0800, .notIpv4),
    (frame.byteAt 14 / 16 = 4, .notIpv4),
    (frame.byteAt 14 % 16 = 5, .badHeaderLength),
    (frame.byteAt 23 = 17, .notUdp),
    (frame.wordAt 16 = length + 20 ∧ 8 ≤ length, .lengthMismatch),
    (34 + length ≤ frame.length, .truncated),
    (verify → Summed ((frame.drop 14).take 20) ((frame.drop 34).take length), .badChecksum),
    (length ≤ 8 + capacity, .payloadTooLarge)]

/-- The fault of the first test that fails. -/
def firstFault : List (Bool × FrameError) → Option FrameError
  | [] => none
  | (passed, fault) :: rest => if passed then firstFault rest else some fault

/-- The datagram in a frame, by the places of its parts. -/
def datagramAt (frame : Bytes) : Datagram where
  src := ⟨frame.getD 26 0, frame.getD 27 0, frame.getD 28 0, frame.getD 29 0⟩
  sport := UInt16.ofNat (frame.wordAt 34)
  dport := UInt16.ofNat (frame.wordAt 36)
  payload := (frame.drop 42).take (frame.wordAt 38 - 8)

/-- What comes out of tests on the way to a datagram. -/
def outcome (tests : List (Bool × FrameError)) (datagram : Datagram) :
    Except FrameError Datagram :=
  match firstFault tests with
  | none => .ok datagram
  | some fault => .error fault

/-! ## The reading by its tests -/

@[simp] theorem outcome_nil (datagram : Datagram) : outcome [] datagram = .ok datagram := rfl

/-- A test that is passed leaves what comes of the others. -/
theorem outcome_cons (p : Prop) [Decidable p] (fault : FrameError)
    (rest : List (Bool × FrameError)) (datagram : Datagram) :
    outcome ((decide p, fault) :: rest) datagram =
      if p then outcome rest datagram else .error fault := by
  by_cases hp : p
  · simp only [outcome, firstFault, hp, decide_true, if_true]
  · simp only [outcome, firstFault, hp, decide_false, Bool.false_eq_true, if_false]

/-- Behind headers, summed means that both checksums in them are right. -/
theorem summed_iff (headers : Headers) {payload : Bytes}
    (h : headers.udp.length.toNat = UdpHeader.size + payload.length) :
    Summed (headers.ip.layout headers.ip.check) (headers.udp.toBytes ++ payload) ↔
      Checksum.verify (headers.ip.layout headers.ip.check) = true ∧
        Checksum.verifyUdp headers.ip.source headers.ip.dest (headers.udp.toBytes ++ payload) =
          true := by
  have hlength : (headers.udp.toBytes ++ payload).length = headers.udp.length.toNat := by
    rw [List.length_append, UdpHeader.length_toBytes, h]
  have hfits := headers.udp.length.toNat_lt
  have hpseudo : pseudoBytes (headers.ip.layout headers.ip.check) (headers.udp.toBytes ++ payload) =
      Checksum.pseudoHeader headers.ip.source headers.ip.dest Checksum.udpProtocol
        (UInt16.ofNat (headers.udp.toBytes ++ payload).length) := by
    rw [hlength, UInt16.ofNat_toNat]
    rfl
  have hcheck : Bytes.wordAt (headers.udp.toBytes ++ payload) 6 = 0 ↔ headers.udp.check = 0 := by
    rw [← UInt16.toNat_inj]
    exact iff_of_eq (congrArg (· = 0) (Bytes.wordAt_bytes16 headers.udp.check))
  rw [Summed, hpseudo, hcheck, verifyUdp_toBytes_append,
    Checksum.verify_iff_rfc1071 (headers.ip.total_layout_lt _),
    Checksum.udpComplement_eq_zero_iff_rfc1071 _ _ (hlength ▸ hfits)]

/-- The datagram in a frame of headers and what follows them. -/
theorem datagramAt_toBytes_append (headers : Headers) (rest : Bytes) :
    datagramAt (headers.toBytes ++ rest) =
      headers.datagram (rest.take (headers.udp.length.toNat - UdpHeader.size)) := by
  have hsport : Bytes.wordAt (headers.toBytes ++ rest) 34 = headers.udp.source.toNat :=
    Bytes.wordAt_bytes16 headers.udp.source
  have hdport : Bytes.wordAt (headers.toBytes ++ rest) 36 = headers.udp.dest.toNat :=
    Bytes.wordAt_bytes16 headers.udp.dest
  have hdeclared : Bytes.wordAt (headers.toBytes ++ rest) 38 = headers.udp.length.toNat :=
    Bytes.wordAt_bytes16 headers.udp.length
  rw [datagramAt, hsport, hdport, hdeclared, UInt16.ofNat_toNat, UInt16.ofNat_toNat]
  rfl

/-- A test by its refusal, and the same test by its passing. -/
theorem ite_error_congr {p q : Prop} [Decidable p] [Decidable q] {fault : FrameError}
    {rest rest' : Except FrameError Datagram} (hpq : p ↔ ¬q) (hrest : q → rest = rest') :
    (if p then .error fault else rest) = if q then rest' else .error fault := by
  by_cases hq : q
  · rw [if_neg (fun hp => hpq.1 hp hq), if_pos hq, hrest hq]
  · rw [if_pos (hpq.2 hq), if_neg hq]

/-- The reading of a frame comes to its tests. -/
theorem decode_eq_outcome (frame : Bytes) (capacity : Nat) (verify : Bool) :
    decode frame capacity verify =
      outcome (tests frame capacity verify) (datagramAt frame) := by
  have hoverhead : frameOverhead = 42 := rfl
  have hsize : UdpHeader.size = 8 := rfl
  unfold tests
  simp only [outcome_cons, outcome_nil]
  by_cases hlength : frame.length < frameOverhead
  · unfold decode
    rw [if_pos hlength, if_neg (show ¬42 ≤ frame.length by omega)]
    rfl
  rw [if_pos (show 42 ≤ frame.length by omega)]
  obtain ⟨headers, rest, rfl⟩ := Headers.exists_toBytes (Nat.not_lt.1 hlength)
  have hkind : Bytes.wordAt (headers.toBytes ++ rest) 12 = headers.ethernet.kind.toNat :=
    Bytes.wordAt_bytes16 headers.ethernet.kind
  have htotal : Bytes.wordAt (headers.toBytes ++ rest) 16 = headers.ip.totalLength.toNat :=
    Bytes.wordAt_bytes16 headers.ip.totalLength
  have hdeclared : Bytes.wordAt (headers.toBytes ++ rest) 38 = headers.udp.length.toNat :=
    Bytes.wordAt_bytes16 headers.udp.length
  have hversion : Bytes.byteAt (headers.toBytes ++ rest) 14 = headers.ip.versionIhl.toNat := rfl
  have hprotocol : Bytes.byteAt (headers.toBytes ++ rest) 23 = headers.ip.protocol.toNat := rfl
  have hbehind : (headers.udp.toBytes ++ rest).length = 8 + rest.length := List.length_append
  have hwhole : (headers.toBytes ++ rest).length = 42 + rest.length := List.length_append
  rw [decode_toBytes_append, hkind, htotal, hdeclared, hversion, hprotocol]
  -- one test after the other, with what the passed ones said at hand for the next
  refine ite_error_congr (not_congr UInt16.toNat_inj.symm) fun _ => ?_
  refine ite_error_congr Iff.rfl fun _ => ?_
  refine ite_error_congr (not_congr ?_) fun _ => ?_
  · show headers.ip.versionIhl.toNat % 16 * 4 = 20 ↔ _
    omega
  refine ite_error_congr (not_congr UInt8.toNat_inj.symm) fun _ => ?_
  refine ite_error_congr ?_ fun hlengths => ?_
  · show _ ≠ _ + 20 ∨ _ < 8 ↔ _
    omega
  refine ite_error_congr (by omega) fun hholds => ?_
  -- the segment is the UDP header and as much behind it as the header declares
  obtain ⟨size, hlength'⟩ : ∃ size, headers.udp.length.toNat = UdpHeader.size + size :=
    ⟨headers.udp.length.toNat - UdpHeader.size, by omega⟩
  have hcut : (rest.take size).length = size := by
    rw [List.length_take]
    omega
  have hsegment : (headers.udp.toBytes ++ rest).take headers.udp.length.toNat =
      headers.udp.toBytes ++ rest.take size := by
    rw [hlength', ← UdpHeader.length_toBytes headers.udp, List.take_length_add_append]
  have hdrop : (headers.udp.toBytes ++ rest.take size).drop UdpHeader.size = rest.take size :=
    List.drop_left' (UdpHeader.length_toBytes _)
  rw [hsegment, hdrop, hcut, datagramAt_toBytes_append, hlength', Nat.add_sub_cancel_left]
  refine ite_error_congr ?_ fun _ => ite_error_congr (by omega) fun _ => rfl
  rw [← summed_iff headers (hcut.symm ▸ hlength'), ← Classical.not_imp, ← hlength', ← hsegment]
  exact Iff.rfl

/-! ## The reading with bounds -/

/-- The reading with every range checked against the bytes that there are: it comes to nothing where
one is out of bounds. -/
def decodeChecked (frame : Bytes) (capacity : Nat) (verify : Bool) :
    ExceptT FrameError Option Datagram := do
  if frame.length < frameOverhead then
    throw .truncated
  unless Ethernet.kindOf? frame = some EtherType.ipv4.toWord do
    throw .notIpv4
  let packet ← frame.slice? EthernetHeader.size frame.length
  let some ip := IpHeader.parse? packet | throw .truncated
  unless ip.version = 4 do
    throw .notIpv4
  unless ip.headerLength = IpHeader.size do
    throw .badHeaderLength
  unless ip.protocol = Checksum.udpProtocol do
    throw .notUdp
  let start := EthernetHeader.size + IpHeader.size
  let behind ← frame.slice? start frame.length
  let some udp := UdpHeader.parse? behind | throw .truncated
  let length := udp.length.toNat
  if ip.totalLength.toNat ≠ length + IpHeader.size ∨ length < UdpHeader.size then
    throw .lengthMismatch
  if frame.length < start + length then
    throw .truncated
  let segment ← frame.slice? start (start + length)
  let header ← frame.slice? EthernetHeader.size start
  if verify ∧ ¬(Checksum.verify header ∧ Checksum.verifyUdp ip.source ip.dest segment) then
    throw .badChecksum
  let payload ← segment.slice? UdpHeader.size segment.length
  if capacity < payload.length then
    throw .payloadTooLarge
  return { src := ip.source, sport := udp.source, dport := udp.dest, payload }

/-- A refusal ends the checked reading too. -/
theorem checked_throw_bind {α : Type} (error : FrameError)
    (rest : PUnit → ExceptT FrameError Option α) : (throw error >>= rest) = throw error := rfl

/-- A checked reading goes on with the bytes of a range. -/
theorem run_lift_bind {α : Type} (range : Option Bytes)
    (next : Bytes → ExceptT FrameError Option α) :
    ((liftM range : ExceptT FrameError Option Bytes) >>= next).run =
      range.bind fun bytes => (next bytes).run := by
  cases range <;> rfl

/-- What a checked reading comes to after a test. -/
theorem run_ite {α : Type} (p : Prop) [Decidable p] (passed failed : ExceptT FrameError Option α) :
    (if p then passed else failed).run = if p then passed.run else failed.run := by
  split <;> rfl

/-- A test that both sides of a comparison make. -/
theorem ite_eq_some {α : Type} {p : Prop} [Decidable p] {checked checked' : Option α}
    {result result' : α} (hpos : p → checked = some result) (hneg : ¬p → checked' = some result') :
    (if p then checked else checked') = some (if p then result else result') := by
  by_cases hp : p
  · rw [if_pos hp, if_pos hp, hpos hp]
  · rw [if_neg hp, if_neg hp, hneg hp]

/-- No range that the reading cuts is out of bounds: the tests before it have seen to that. -/
theorem decodeChecked_run (frame : Bytes) (capacity : Nat) (verify : Bool) :
    (decodeChecked frame capacity verify).run = some (decode frame capacity verify) := by
  by_cases hlength : frame.length < frameOverhead
  · unfold decodeChecked decode
    rw [if_pos hlength, if_pos hlength]
    rfl
  obtain ⟨headers, rest, rfl⟩ := Headers.exists_toBytes (Nat.not_lt.1 hlength)
  have hbehind : (headers.udp.toBytes ++ rest).length = 8 + rest.length := List.length_append
  have hwhole : (headers.toBytes ++ rest).length = 42 + rest.length := List.length_append
  -- the three ranges in front do not depend on what the frame declares
  have hpacket : Bytes.slice? (headers.toBytes ++ rest) EthernetHeader.size
      (headers.toBytes ++ rest).length =
        some (headers.ip.layout headers.ip.check ++ (headers.udp.toBytes ++ rest)) :=
    Bytes.slice?_length (show 14 ≤ _ by omega)
  have hsegments : Bytes.slice? (headers.toBytes ++ rest) (EthernetHeader.size + IpHeader.size)
      (headers.toBytes ++ rest).length = some (headers.udp.toBytes ++ rest) :=
    Bytes.slice?_length (show 34 ≤ _ by omega)
  have hheader : Bytes.slice? (headers.toBytes ++ rest) EthernetHeader.size
      (EthernetHeader.size + IpHeader.size) = some (headers.ip.layout headers.ip.check) :=
    Bytes.slice?_of_le (show 14 ≤ 34 by omega) (show 34 ≤ _ by omega)
  have hshort : (headers.toBytes ++ rest).length <
      EthernetHeader.size + IpHeader.size + headers.udp.length.toNat ↔
        (headers.udp.toBytes ++ rest).length < headers.udp.length.toNat := by
    show _ < 34 + _ ↔ _
    omega
  rw [decode_toBytes_append]
  unfold decodeChecked
  simp only [if_neg hlength, kindOf?_toBytes_append, checked_throw_bind, run_ite, run_lift_bind,
    hpacket, hsegments, hheader, hshort, Option.bind_some, IpHeader.parse?_layout,
    UdpHeader.parse?_toBytes, Option.some.injEq, ite_not]
  refine ite_eq_some (fun _ => ?_) (fun _ => rfl)
  refine ite_eq_some (fun _ => ?_) (fun _ => rfl)
  refine ite_eq_some (fun _ => ?_) (fun _ => rfl)
  refine ite_eq_some (fun _ => ?_) (fun _ => rfl)
  refine ite_eq_some (fun _ => rfl) (fun hlengths => ?_)
  refine ite_eq_some (fun _ => rfl) (fun hholds => ?_)
  -- now the segment that the header declares is there, and a UDP header fits it
  have hcut : ((headers.udp.toBytes ++ rest).take headers.udp.length.toNat).length =
      headers.udp.length.toNat := by
    rw [List.length_take]
    omega
  have hsegment : Bytes.slice? (headers.toBytes ++ rest) (EthernetHeader.size + IpHeader.size)
      (EthernetHeader.size + IpHeader.size + headers.udp.length.toNat) =
        some ((headers.udp.toBytes ++ rest).take headers.udp.length.toNat) := by
    rw [Bytes.slice?_of_le (Nat.le_add_right _ _) (Nat.not_lt.1 (hshort.not.2 hholds)),
      Nat.add_sub_cancel_left]
    rfl
  rw [hsegment, Option.bind_some, Bytes.slice?_length (by omega), Option.bind_some]
  refine ite_eq_some (fun _ => rfl) (fun _ => ?_)
  exact ite_eq_some (fun _ => rfl) (fun _ => rfl)

/-! ## What is accepted -/

/-- The headers announce a payload exactly if their bytes are its grammar: the version and the
header length of an IPv4 header are the two halves of one byte. -/
theorem grammar_iff (headers : Headers) (payload : Bytes) :
    Grammar headers.ethernet.toBytes (headers.ip.layout headers.ip.check) headers.udp.toBytes
      payload ↔ headers.Announce payload := by
  have hkind : headers.ethernet.toBytes.drop 12 = Bytes.bytes16 headers.ethernet.kind := rfl
  have hwritten : ([0x08, 0x00] : Bytes) = Bytes.bytes16 EtherType.ipv4.toWord := rfl
  have htotal : Bytes.wordAt (headers.ip.layout headers.ip.check) 2 =
      headers.ip.totalLength.toNat := Bytes.wordAt_bytes16 headers.ip.totalLength
  have hlength : Bytes.wordAt headers.udp.toBytes 4 = headers.udp.length.toNat :=
    Bytes.wordAt_bytes16 headers.udp.length
  have hhalves : Bytes.byteAt (headers.ip.layout headers.ip.check) 0 = 0x45 ↔
      headers.ip.version = 4 ∧ headers.ip.headerLength = IpHeader.size := by
    show headers.ip.versionIhl.toNat = 69 ↔
      headers.ip.versionIhl.toNat / 16 = 4 ∧ headers.ip.versionIhl.toNat % 16 * 4 = 20
    omega
  constructor
  · intro h
    have hkind' := hkind.symm.trans (h.kind.trans hwritten)
    have hdeclared := h.length
    have hwhole := h.totalLength
    rw [hlength] at hdeclared
    rw [htotal] at hwhole
    exact {
      kind := (Bytes.bytes16_append_inj (congrArg (· ++ []) hkind')).1
      version := (hhalves.1 h.versionIhl).1
      headerLength := (hhalves.1 h.versionIhl).2
      protocol := UInt8.toNat.inj h.protocol
      totalLength := by
        show _ = _ + 20
        omega
      length := hdeclared }
  · intro h
    have hdeclared := h.length
    have hwhole := h.totalLength
    exact {
      ethernet_length := rfl
      kind := by rw [hkind, h.kind, hwritten]
      ip_length := rfl
      versionIhl := hhalves.2 ⟨h.version, h.headerLength⟩
      protocol := congrArg UInt8.toNat h.protocol
      udp_length := rfl
      length := hlength.trans hdeclared
      totalLength := by
        rw [htotal, hwhole, hdeclared]
        show 8 + _ + 20 = 28 + _
        omega }

/-- Byte strings in front of a payload are headers. -/
theorem Grammar.exists_headers {ethernet ip udp payload : Bytes}
    (h : Grammar ethernet ip udp payload) :
    ∃ headers : Headers, ethernet = headers.ethernet.toBytes ∧
      ip = headers.ip.layout headers.ip.check ∧ udp = headers.udp.toBytes := by
  -- nothing is left behind a header whose length is right
  have hwhole {bytes block rest : Bytes} (hbytes : bytes = block ++ rest)
      (hlength : bytes.length = block.length) : bytes = block :=
    (List.append_inj ((List.append_nil bytes).trans hbytes) hlength).1
  obtain ⟨first, _, hfirst, -⟩ :=
    EthernetHeader.exists_toBytes (Nat.le_of_eq h.ethernet_length.symm)
  obtain ⟨second, _, hsecond, -⟩ := IpHeader.exists_layout (Nat.le_of_eq h.ip_length.symm)
  obtain ⟨third, _, hthird, -⟩ := UdpHeader.exists_toBytes (Nat.le_of_eq h.udp_length.symm)
  exact ⟨⟨first, second, third⟩, hwhole hfirst h.ethernet_length, hwhole hsecond h.ip_length,
    hwhole hthird h.udp_length⟩

/-- The datagram of headers, read off their bytes. -/
theorem datagramOf_toBytes (headers : Headers) (payload : Bytes) :
    datagramOf (headers.ip.layout headers.ip.check) headers.udp.toBytes payload =
      headers.datagram payload := by
  have hsport : Bytes.wordAt headers.udp.toBytes 0 = headers.udp.source.toNat :=
    Bytes.wordAt_bytes16 headers.udp.source
  have hdport : Bytes.wordAt headers.udp.toBytes 2 = headers.udp.dest.toNat :=
    Bytes.wordAt_bytes16 headers.udp.dest
  rw [datagramOf, hsport, hdport, UInt16.ofNat_toNat, UInt16.ofNat_toNat]
  rfl

/-- Exactly those frames are read as datagrams that consist of three headers, the payload that they
declare, and padding, and are summed where the checksums are looked at. -/
theorem decode_eq_ok_iff_grammar (frame : Bytes) (capacity : Nat) (verify : Bool)
    (datagram : Datagram) :
    decode frame capacity verify = .ok datagram ↔
      ∃ ethernet ip udp payload pad : Bytes, frame = ethernet ++ ip ++ udp ++ payload ++ pad ∧
        Grammar ethernet ip udp payload ∧ payload.length ≤ capacity ∧
        (verify = true → Summed ip (udp ++ payload)) ∧ datagram = datagramOf ip udp payload := by
  rw [decode_eq_ok_iff]
  constructor
  · rintro ⟨headers, payload, pad, rfl, hannounce, hroom, hvouch, rfl⟩
    refine ⟨headers.ethernet.toBytes, headers.ip.layout headers.ip.check, headers.udp.toBytes,
      payload, pad, (List.append_assoc _ _ _).symm, (grammar_iff headers payload).2 hannounce,
      hroom, fun hverify => ?_, (datagramOf_toBytes headers payload).symm⟩
    exact (summed_iff headers hannounce.length).2
      ⟨(hvouch hverify).ip, (hvouch hverify).segment⟩
  · rintro ⟨ethernet, ip, udp, payload, pad, rfl, hgrammar, hroom, hsummed, rfl⟩
    obtain ⟨headers, rfl, rfl, rfl⟩ := hgrammar.exists_headers
    have hannounce := (grammar_iff headers payload).1 hgrammar
    refine ⟨headers, payload, pad, List.append_assoc _ _ _, hannounce, hroom, fun hverify => ?_,
      datagramOf_toBytes headers payload⟩
    obtain ⟨hip, hsegment⟩ := (summed_iff headers hannounce.length).1 (hsummed hverify)
    exact ⟨hip, hsegment⟩

/-- What follows the payload does not matter. -/
theorem Grammar.decode_pad {ethernet ip udp payload : Bytes} (h : Grammar ethernet ip udp payload)
    (pad pad' : Bytes) (capacity : Nat) (verify : Bool) :
    decode (ethernet ++ ip ++ udp ++ payload ++ pad) capacity verify =
      decode (ethernet ++ ip ++ udp ++ payload ++ pad') capacity verify := by
  obtain ⟨headers, rfl, rfl, rfl⟩ := h.exists_headers
  have hlength := ((grammar_iff headers payload).1 h).length
  have hholds (pad : Bytes) :
      ¬(headers.udp.toBytes ++ (payload ++ pad)).length < headers.udp.length.toNat := by
    simp only [List.length_append, UdpHeader.length_toBytes]
    omega
  show decode (headers.toBytes ++ payload ++ pad) capacity verify =
    decode (headers.toBytes ++ payload ++ pad') capacity verify
  simp only [List.append_assoc, decode_toBytes_append, take_segment headers.udp _ hlength, hholds,
    if_false]

/-- The places of a frame that are not read where the checksums are not looked at: the hardware
addresses, the type of service, the identification, the fragment field and the time to live. -/
def Unread (place : Nat) : Prop :=
  place < 12 ∨ place = 15 ∨ 18 ≤ place ∧ place < 23

instance (place : Nat) : Decidable (Unread place) :=
  inferInstanceAs (Decidable (_ ∨ _))

/-- Frames of one length that agree in all other places are read alike. -/
theorem decode_congr {frame frame' : Bytes} (hlength : frame'.length = frame.length)
    (hread : ∀ place, ¬Unread place → frame'[place]? = frame[place]?) (capacity : Nat) :
    decode frame' capacity false = decode frame capacity false := by
  have hgetD (place : Nat) (h : ¬Unread place) : frame'.getD place 0 = frame.getD place 0 := by
    rw [List.getD_eq_getElem?_getD, List.getD_eq_getElem?_getD, hread place h]
  have hbyte (place : Nat) (h : ¬Unread place) : frame'.byteAt place = frame.byteAt place :=
    congrArg UInt8.toNat (hgetD place h)
  have hword (place : Nat) (h : ¬Unread place) (h' : ¬Unread (place + 1)) :
      frame'.wordAt place = frame.wordAt place := by
    rw [Bytes.wordAt, Bytes.wordAt, hbyte place h, hbyte (place + 1) h']
  have hdrop : frame'.drop 42 = frame.drop 42 := by
    apply List.ext_getElem?
    intro place
    rw [List.getElem?_drop, List.getElem?_drop]
    exact hread (42 + place) (by unfold Unread; omega)
  -- each place at which the tests or the datagram look is one that is read
  have htests : tests frame' capacity false = tests frame capacity false := by
    have hkind := hword 12 (by decide) (by decide)
    have htotal := hword 16 (by decide) (by decide)
    have hdeclared := hword 38 (by decide) (by decide)
    have hversion := hbyte 14 (by decide)
    have hprotocol := hbyte 23 (by decide)
    simp only [tests, hlength, hkind, htotal, hdeclared, hversion, hprotocol, Bool.false_eq_true,
      false_imp_iff]
  have hdatagram : datagramAt frame' = datagramAt frame := by
    have hsport := hword 34 (by decide) (by decide)
    have hdport := hword 36 (by decide) (by decide)
    have hdeclared := hword 38 (by decide) (by decide)
    simp only [datagramAt, hgetD 26 (by decide), hgetD 27 (by decide), hgetD 28 (by decide),
      hgetD 29 (by decide), hsport, hdport, hdeclared, hdrop]
  rw [decode_eq_outcome, decode_eq_outcome, htests, hdatagram]

/-- A frame is refused for the first of its tests that fails. -/
theorem decode_eq_error_iff (frame : Bytes) (capacity : Nat) (verify : Bool) (fault : FrameError) :
    decode frame capacity verify = .error fault ↔
      firstFault (tests frame capacity verify) = some fault := by
  rw [decode_eq_outcome, outcome]
  cases firstFault (tests frame capacity verify) with
  | none => simp only [reduceCtorEq]
  | some first => rw [Except.error.injEq, Option.some.injEq]

/-- The reading accepts exactly its grammar and refuses every other frame for the first test that it
fails, and no range that it cuts is out of bounds. Without the checksums it does not depend on the
hardware addresses, the type of service, the identification, the fragment field or the time to live,
and it never depends on the padding. -/
theorem decode_grammar (frame : Bytes) (capacity : Nat) (verify : Bool) :
    (decodeChecked frame capacity verify).run = some (decode frame capacity verify) ∧
    (∀ datagram, decode frame capacity verify = .ok datagram ↔
      ∃ ethernet ip udp payload pad : Bytes, frame = ethernet ++ ip ++ udp ++ payload ++ pad ∧
        Grammar ethernet ip udp payload ∧ payload.length ≤ capacity ∧
        (verify = true → Summed ip (udp ++ payload)) ∧ datagram = datagramOf ip udp payload) ∧
    (∀ fault, decode frame capacity verify = .error fault ↔
      firstFault (tests frame capacity verify) = some fault) ∧
    (∀ frame' : Bytes, frame'.length = frame.length →
      (∀ place, ¬Unread place → frame'[place]? = frame[place]?) →
        decode frame' capacity false = decode frame capacity false) ∧
    (∀ ethernet ip udp payload pad pad' : Bytes, Grammar ethernet ip udp payload →
      decode (ethernet ++ ip ++ udp ++ payload ++ pad) capacity verify =
        decode (ethernet ++ ip ++ udp ++ payload ++ pad') capacity verify) := by
  refine ⟨decodeChecked_run frame capacity verify, decode_eq_ok_iff_grammar frame capacity verify,
    decode_eq_error_iff frame capacity verify, ?_, ?_⟩
  · intro frame' hlength hread
    exact decode_congr hlength hread capacity
  · intro ethernet ip udp payload pad pad' hgrammar
    exact hgrammar.decode_pad pad pad' capacity verify

end Udp

end NetStack
