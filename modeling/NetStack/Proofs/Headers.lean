import NetStack.Frame.Arp
import NetStack.Proofs.Grammar

/-!
# Headers and their bytes

The readers of the headers take a fixed number of bytes and fail where there are fewer
(`Reader.Takes`). A header that is laid out in as many bytes as its reader takes, and whose bytes
can be anything, is the same thing as its bytes: reading undoes writing and writing undoes reading
(`HeaderFormat.inverse`).

An IPv4 header is written with its right checksum, whatever its `check` field says, so that writing
undoes reading only where the checksum that was read is the one that is computed. It is, in a
header that verifies, but for the two forms of zero (`IpHeader.checksum_eq_check`).
`formats_inverse` states this for the four headers.
-/

namespace NetStack

namespace Reader

/-- A reader of a fixed size: it fails exactly where there are fewer bytes, and leaves those behind
the ones that it takes. -/
structure Takes {α : Type} (size : Nat) (reader : Reader α) : Prop where
  eq_none_iff : ∀ bytes, reader bytes = none ↔ bytes.length < size
  length_eq : ∀ {bytes rest : Bytes} {value : α}, reader bytes = some (value, rest) →
    bytes.length = rest.length + size

/-- Without a step more, nothing more is taken. -/
theorem takes_pure {α : Type} (value : α) : Takes 0 (pure value : Reader α) where
  eq_none_iff := by simp
  length_eq := by
    intro bytes rest value' h
    cases h
    rfl

/-- Readers in a row take what each of them takes. -/
theorem Takes.bind {α β : Type} {m n : Nat} {reader : Reader α} {next : α → Reader β}
    (h : Takes m reader) (h' : ∀ value, Takes n (next value)) :
    Takes (m + n) (reader >>= next) where
  eq_none_iff := by
    intro bytes
    rw [bind_apply]
    cases hfirst : reader bytes with
    | none =>
      have hshort := (h.eq_none_iff bytes).1 hfirst
      simp only [Option.bind_none, true_iff]
      omega
    | some taken =>
      obtain ⟨value, rest⟩ := taken
      have hlength := h.length_eq hfirst
      show next value rest = none ↔ _
      rw [(h' value).eq_none_iff]
      omega
  length_eq := by
    intro bytes rest value hboth
    rw [bind_apply, Option.bind_eq_some_iff] at hboth
    obtain ⟨⟨first, between⟩, hfirst, hthen⟩ := hboth
    have hlength := h.length_eq hfirst
    have hrest : between.length = rest.length + n := (h' first).length_eq hthen
    omega

theorem takes_byte : Takes 1 byte where
  eq_none_iff := by
    intro bytes
    cases bytes <;> simp [byte]
  length_eq := by
    intro bytes rest value h
    cases bytes with
    | nil => cases h
    | cons first rest =>
      cases h
      rfl

theorem takes_word16 : Takes 2 word16 where
  eq_none_iff := by
    intro bytes
    rcases bytes with _ | ⟨high, _ | ⟨low, rest⟩⟩ <;> simp [word16]
  length_eq := by
    intro bytes rest value h
    rcases bytes with _ | ⟨high, _ | ⟨low, behind⟩⟩
    · cases h
    · cases h
    · cases h
      rfl

/-- A value is found exactly where there are enough bytes for it. -/
theorem Takes.parse?_eq_none_iff {α : Type} {size : Nat} {reader : Reader α} (h : Takes size reader)
    (bytes : Bytes) : reader.parse? bytes = none ↔ bytes.length < size := by
  unfold parse?
  rw [Option.map_eq_none_iff, h.eq_none_iff]

end Reader

theorem Ipv4.takes_reader : Reader.Takes 4 Ipv4.reader where
  eq_none_iff := by
    intro bytes
    match bytes with
    | [] | [_] | [_, _] | [_, _, _] => simp [reader]
    | _ :: _ :: _ :: _ :: _ => simp [reader]
  length_eq := by
    intro bytes rest value h
    match bytes with
    | [] | [_] | [_, _] | [_, _, _] => cases h
    | _ :: _ :: _ :: _ :: _ =>
      cases h
      rfl

theorem Mac.takes_reader : Reader.Takes 6 Mac.reader where
  eq_none_iff := by
    intro bytes
    match bytes with
    | [] | [_] | [_, _] | [_, _, _] | [_, _, _, _] | [_, _, _, _, _] => simp [reader]
    | _ :: _ :: _ :: _ :: _ :: _ :: _ => simp [reader]
  length_eq := by
    intro bytes rest value h
    match bytes with
    | [] | [_] | [_, _] | [_, _, _] | [_, _, _, _] | [_, _, _, _, _] => cases h
    | _ :: _ :: _ :: _ :: _ :: _ :: _ =>
      cases h
      rfl

/-- An Ethernet header takes fourteen bytes: two hardware addresses and a word. -/
theorem EthernetHeader.takes_reader : Reader.Takes size reader :=
  Mac.takes_reader.bind fun _ => Mac.takes_reader.bind fun _ =>
    Reader.takes_word16.bind fun _ => Reader.takes_pure _

/-- A UDP header takes eight bytes: four words. -/
theorem UdpHeader.takes_reader : Reader.Takes size reader :=
  Reader.takes_word16.bind fun _ => Reader.takes_word16.bind fun _ =>
    Reader.takes_word16.bind fun _ => Reader.takes_word16.bind fun _ => Reader.takes_pure _

/-- An ARP packet takes twenty-eight bytes. -/
theorem ArpPacket.takes_reader : Reader.Takes size reader :=
  Reader.takes_word16.bind fun _ => Reader.takes_word16.bind fun _ =>
    Reader.takes_byte.bind fun _ => Reader.takes_byte.bind fun _ =>
      Reader.takes_word16.bind fun _ => Mac.takes_reader.bind fun _ =>
        Ipv4.takes_reader.bind fun _ => Mac.takes_reader.bind fun _ =>
          Ipv4.takes_reader.bind fun _ => Reader.takes_pure _

/-- An IPv4 header takes twenty bytes. -/
theorem IpHeader.takes_reader : Reader.Takes size reader :=
  Reader.takes_byte.bind fun _ => Reader.takes_byte.bind fun _ =>
    Reader.takes_word16.bind fun _ => Reader.takes_word16.bind fun _ =>
      Reader.takes_word16.bind fun _ => Reader.takes_byte.bind fun _ =>
        Reader.takes_byte.bind fun _ => Reader.takes_word16.bind fun _ =>
          Ipv4.takes_reader.bind fun _ => Ipv4.takes_reader.bind fun _ => Reader.takes_pure _

/-- Twenty-eight bytes in front are an ARP packet. -/
theorem ArpPacket.exists_toBytes {bytes : Bytes} (h : size ≤ bytes.length) :
    ∃ packet rest, bytes = toBytes packet ++ rest := by
  have hsize : size = 28 := rfl
  obtain ⟨hardware, afterHardware, hhardware, hlength⟩ :=
    Bytes.exists_bytes16 (show 2 ≤ bytes.length by omega)
  obtain ⟨protocol, afterProtocol, hprotocol, hprotocolLength⟩ :=
    Bytes.exists_bytes16 (show 2 ≤ afterHardware.length by omega)
  obtain ⟨hardwareLength, protocolLength, afterLengths, hlengths, hlengthsLength⟩ :=
    Bytes.exists_pair (show 2 ≤ afterProtocol.length by omega)
  obtain ⟨operation, afterOperation, hoperation, hoperationLength⟩ :=
    Bytes.exists_bytes16 (show 2 ≤ afterLengths.length by omega)
  obtain ⟨senderMac, afterSender, hsenderMac, hsenderMacLength⟩ :=
    Mac.exists_toBytes (show 6 ≤ afterOperation.length by omega)
  obtain ⟨senderIp, afterSenderIp, hsenderIp, hsenderIpLength⟩ :=
    Ipv4.exists_toBytes (show 4 ≤ afterSender.length by omega)
  obtain ⟨targetMac, afterTarget, htargetMac, htargetMacLength⟩ :=
    Mac.exists_toBytes (show 6 ≤ afterSenderIp.length by omega)
  obtain ⟨targetIp, rest, htargetIp, -⟩ :=
    Ipv4.exists_toBytes (show 4 ≤ afterTarget.length by omega)
  refine ⟨⟨hardware, protocol, hardwareLength, protocolLength, operation, senderMac, senderIp,
    targetMac, targetIp⟩, rest, ?_⟩
  rw [hhardware, hprotocol, hlengths, hoperation, hsenderMac, hsenderIp, htargetMac, htargetIp]
  simp only [toBytes, List.append_assoc]
  rfl

/-! ## Writing and reading -/

namespace Bytes

variable {block buffer : Bytes}

/-- A buffer with room for a block takes it, and keeps what is behind it. -/
theorem writeHead?_of_le (h : block.length ≤ buffer.length) :
    writeHead? block buffer = some (block ++ buffer.drop block.length) :=
  if_neg (Nat.not_lt.2 h)

/-- A block that is written over a buffer changes nothing behind it. -/
theorem exists_writeHead? (h : block.length ≤ buffer.length) : ∃ rest,
    writeHead? block buffer = some (block ++ rest) ∧ (block ++ rest).length = buffer.length ∧
      (block ++ rest).drop block.length = buffer.drop block.length := by
  have hwritten := writeHead?_of_le h
  exact ⟨_, hwritten, length_of_writeHead? hwritten, List.drop_left' rfl⟩

/-- Only a buffer without room for a block refuses it. -/
theorem writeHead?_eq_none_iff (block buffer : Bytes) :
    writeHead? block buffer = none ↔ buffer.length < block.length := by
  unfold writeHead?
  split <;> simp [*]

/-- A block takes the place of one of its length. -/
theorem writeHead?_append {old : Bytes} (rest : Bytes) (h : old.length = block.length) :
    writeHead? block (old ++ rest) = some (block ++ rest) := by
  have hroom : block.length ≤ (old ++ rest).length := by
    rw [List.length_append]
    omega
  rw [writeHead?_of_le hroom, List.drop_left' h]

end Bytes

/-- A kind of header: its length, how one is read off the front of a byte string, and how one is
written over it. -/
structure HeaderFormat (η : Type) where
  size : Nat
  parse? : Bytes → Option η
  emit? : η → Bytes → Option Bytes

/-- Headers and byte strings of one length are the same thing. -/
structure HeaderFormat.Inverse {η : Type} (format : HeaderFormat η) : Prop where
  parse?_eq_none_iff : ∀ bytes, format.parse? bytes = none ↔ bytes.length < format.size
  emit?_eq_none_iff : ∀ header buffer,
    format.emit? header buffer = none ↔ buffer.length < format.size
  /-- A header is written into every buffer that is long enough. The bytes behind it stay, and it is
  read back. -/
  emit?_parse? : ∀ header buffer, format.size ≤ buffer.length → ∃ result,
    format.emit? header buffer = some result ∧ result.length = buffer.length ∧
      result.drop format.size = buffer.drop format.size ∧ format.parse? result = some header
  /-- What is read off a byte string and written over it again leaves it as it was. -/
  parse?_emit? : ∀ bytes, format.size ≤ bytes.length → ∃ header,
    format.parse? bytes = some header ∧ format.emit? header bytes = some bytes

/-- A header that is laid out in its bytes, and is read off them whatever follows, is the same thing
as its bytes if all byte strings are laid out so. -/
theorem HeaderFormat.inverse {η : Type} {format : HeaderFormat η} {reader : Reader η}
    {toBytes : η → Bytes} (hread : format.parse? = reader.parse?)
    (hwrite : ∀ header, format.emit? header = Bytes.writeHead? (toBytes header))
    (htakes : Reader.Takes format.size reader)
    (hlength : ∀ header, (toBytes header).length = format.size)
    (hparse : ∀ header rest, format.parse? (toBytes header ++ rest) = some header)
    (hexists : ∀ {bytes : Bytes}, format.size ≤ bytes.length →
      ∃ header rest, bytes = toBytes header ++ rest) : format.Inverse where
  parse?_eq_none_iff := by
    rw [hread]
    exact htakes.parse?_eq_none_iff
  emit?_eq_none_iff := by
    intro header buffer
    rw [hwrite, Bytes.writeHead?_eq_none_iff, hlength]
  emit?_parse? := by
    intro header buffer hroom
    rw [← hlength header] at hroom ⊢
    obtain ⟨rest, hresult, hkept, hbehind⟩ := Bytes.exists_writeHead? hroom
    refine ⟨_, ?_, hkept, hbehind, hparse header rest⟩
    rw [hwrite]
    exact hresult
  parse?_emit? := by
    intro bytes hlong
    obtain ⟨header, rest, rfl⟩ := hexists hlong
    refine ⟨header, hparse header rest, ?_⟩
    rw [hwrite]
    exact Bytes.writeHead?_append rest rfl

/-- The fourteen bytes of an Ethernet header. -/
def EthernetHeader.format : HeaderFormat EthernetHeader := ⟨14, parse?, emit?⟩

/-- The eight bytes of a UDP header. -/
def UdpHeader.format : HeaderFormat UdpHeader := ⟨8, parse?, emit?⟩

/-- The twenty-eight bytes of an ARP packet. -/
def ArpPacket.format : HeaderFormat ArpPacket := ⟨28, parse?, emit?⟩

theorem EthernetHeader.inverse_format : format.Inverse :=
  HeaderFormat.inverse rfl (fun _ => rfl) takes_reader length_toBytes parse?_toBytes fun h =>
    let ⟨header, rest, hbytes, _⟩ := exists_toBytes h
    ⟨header, rest, hbytes⟩

theorem UdpHeader.inverse_format : format.Inverse :=
  HeaderFormat.inverse rfl (fun _ => rfl) takes_reader length_toBytes parse?_toBytes fun h =>
    let ⟨header, rest, hbytes, _⟩ := exists_toBytes h
    ⟨header, rest, hbytes⟩

theorem ArpPacket.inverse_format : format.Inverse :=
  HeaderFormat.inverse rfl (fun _ => rfl) takes_reader length_toBytes parse?_toBytes
    exists_toBytes

/-! ## IPv4 headers -/

namespace IpHeader

/-- A header that verifies has the checksum that is computed for it, unless it has all ones. All
ones and zero add the same to a sum, but a sum of nothing does not verify. -/
theorem checksum_eq_check {header : IpHeader}
    (hverify : Checksum.verify (header.layout header.check) = true)
    (hones : header.check ≠ 0xFFFF) : header.checksum = header.check := by
  have hsum := Checksum.toNat_sumFrom_zero (header.total_layout_lt 0)
  have hcomputed := Checksum.dvd_add_complement (Checksum.sumFrom 0 (header.layout 0))
  have hnothing := Checksum.fold_fold_eq_zero_iff (Checksum.sumFrom 0 (header.layout 0))
  have hvalue := Checksum.toNat_complement (Checksum.sumFrom 0 (header.layout 0))
  rw [hsum] at hcomputed hnothing
  rw [Checksum.verify_iff (header.total_layout_lt _), total_layout] at hverify
  have hlt := header.check.toNat_lt
  have hnotOnes : header.check.toNat ≠ 65535 := fun h => hones (UInt16.toNat.inj h)
  apply UInt16.toNat.inj
  show (Checksum.complement (Checksum.sumFrom 0 (header.layout 0))).toNat = header.check.toNat
  -- the two agree modulo 65535, so if they differ, one is zero and the other all ones
  omega

/-- A written header is read back with the checksum that was computed, and verifies. -/
theorem exists_emit? (header : IpHeader) {buffer : Bytes} (h : 20 ≤ buffer.length) :
    ∃ result, header.emit? buffer = some result ∧ result.length = buffer.length ∧
      result.drop 20 = buffer.drop 20 ∧
      parse? result = some { header with check := header.checksum } ∧
      Checksum.verify (result.take 20) = true := by
  have hroom : header.toBytes.length ≤ buffer.length := h
  obtain ⟨rest, hresult, hkept, hbehind⟩ := Bytes.exists_writeHead? hroom
  have htake : (header.toBytes ++ rest).take 20 = header.toBytes :=
    List.take_left' header.length_toBytes
  refine ⟨_, hresult, hkept, hbehind, header.parse?_layout _ rest, ?_⟩
  rw [htake]
  exact header.verify_toBytes

/-- A header that verifies and is written over itself stays as it was. -/
theorem exists_parse? {bytes : Bytes} (hlength : bytes.length = 20)
    (hverify : Checksum.verify bytes = true) (hones : bytes.wordAt 10 ≠ 0xFFFF) :
    ∃ header, parse? bytes = some header ∧ header.emit? bytes = some bytes := by
  obtain ⟨header, rest, rfl, hrest⟩ := exists_layout (Nat.le_of_eq hlength.symm)
  have hempty : rest = [] := by
    have hsize : size = 20 := rfl
    exact List.eq_nil_of_length_eq_zero (by omega)
  rw [hempty, List.append_nil] at hverify
  have hfield : Bytes.wordAt (header.layout header.check ++ rest) 10 = header.check.toNat :=
    Bytes.wordAt_bytes16 header.check
  have hcheck : header.checksum = header.check := by
    refine checksum_eq_check hverify fun h => hones ?_
    rw [hfield, h]
    rfl
  refine ⟨header, header.parse?_layout header.check rest, ?_⟩
  have hwritten : header.emit? (header.layout header.check ++ rest) =
      some (header.layout header.checksum ++ rest) :=
    Bytes.writeHead?_append rest (header.length_layout header.check)
  rw [hwritten, hcheck]

end IpHeader

/-- Ethernet headers, UDP headers and ARP packets are the same things as their bytes. An IPv4 header
is written with its computed checksum in place of its own, and verifies; one that verifies when it
is read is written as it was, if its checksum is not all ones. -/
theorem formats_inverse :
    EthernetHeader.format.Inverse ∧ UdpHeader.format.Inverse ∧ ArpPacket.format.Inverse ∧
    (∀ bytes, IpHeader.parse? bytes = none ↔ bytes.length < 20) ∧
    (∀ (header : IpHeader) (buffer : Bytes), 20 ≤ buffer.length → ∃ result,
      header.emit? buffer = some result ∧ result.length = buffer.length ∧
        result.drop 20 = buffer.drop 20 ∧
        IpHeader.parse? result = some { header with check := header.checksum } ∧
        Checksum.verify (result.take 20) = true) ∧
    ∀ bytes : Bytes, bytes.length = 20 → Checksum.verify bytes = true →
      bytes.wordAt 10 ≠ 0xFFFF →
        ∃ header, IpHeader.parse? bytes = some header ∧ header.emit? bytes = some bytes :=
  ⟨EthernetHeader.inverse_format, UdpHeader.inverse_format, ArpPacket.inverse_format,
    IpHeader.takes_reader.parse?_eq_none_iff, fun header _ => header.exists_emit?,
    fun _ => IpHeader.exists_parse?⟩

-- the words of this header make twice 65535, and its all ones are written as zero
example : Checksum.verify [0x45, 0, 0, 0x1C, 0, 0, 0, 0, 100, 17, 0xFF, 0xFF, 10, 0, 2, 15,
      10, 0, 0x40, 0xC3] = true ∧
    (IpHeader.udp ⟨10, 0, 2, 15⟩ ⟨10, 0, 0x40, 0xC3⟩ 8).checksum = 0 := by decide

/-- A header whose checksum is zero verifies, and is written as it was read. -/
theorem exists_zero_checksum : ∃ (bytes : Bytes) (header : IpHeader), bytes.length = 20 ∧
    Checksum.verify bytes = true ∧ bytes.wordAt 10 = 0 ∧
      IpHeader.parse? bytes = some header ∧ header.emit? bytes = some bytes := by
  have hverify : Checksum.verify [0x45, 0, 0, 0x1C, 0, 0, 0, 0, 100, 17, 0, 0, 10, 0, 2, 15,
      10, 0, 0x40, 0xC3] = true := by decide
  obtain ⟨-, -, -, -, -, hkept⟩ := formats_inverse
  obtain ⟨header, hread, hwritten⟩ := hkept _ rfl hverify (by decide)
  exact ⟨_, header, rfl, hverify, by decide, hread, hwritten⟩

end NetStack
