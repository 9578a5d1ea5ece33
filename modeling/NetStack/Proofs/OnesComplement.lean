import Mathlib.Algebra.GroupWithZero.Nat
import NetStack.Frame.Udp

/-!
# One's-complement sums

Folding a sum keeps it modulo 65535, and leaves zero only of zero (`fold_fold_mod`). So a byte
string sums to zero exactly when the total of its words is a positive multiple of 65535
(`complement_eq_zero_iff`), and a checksum is what its message lacks of one (`dvd_add_complement`).

Carrying word by word, as RFC 1071 sums (`onesSum`), comes to the same as folding at the end
(`toNat_complement_eq_rfc1071`).

From this follows what a written frame relies on: the header of a packet always verifies
(`verify_toBytes`), and so does a segment behind its pseudo header, by its sum and not because the
checksum was left out (`udpComplement_segment`). Sums are carried in 32 bits, which no message of
the protocol outgrows (`total_le`).
-/

namespace NetStack

namespace Checksum

/-- A word in front adds its value. -/
theorem total_bytes16_append (word : UInt16) (rest : Bytes) :
    total (Bytes.bytes16 word ++ rest) = word.toNat + total rest := by
  show (Bytes.word16 _ _).toNat + total rest = _
  rw [Bytes.word16_bytes16]

/-- The total of two byte strings in a row is the sum of theirs, if the first one ends between two
words. -/
theorem total_append {first : Bytes} (rest : Bytes) (heven : first.length % 2 = 0) :
    total (first ++ rest) = total first + total rest := by
  fun_induction total first with
  | case1 high low first ih =>
    have hshorter : first.length % 2 = 0 := by
      rw [List.length_cons, List.length_cons] at heven
      omega
    show (Bytes.word16 high low).toNat + total (first ++ rest) = _
    rw [ih hshorter, Nat.add_assoc]
  | case2 high => simp at heven
  | case3 => rw [List.nil_append, Nat.zero_add]

/-- No word is larger than 65535, and two bytes make one. -/
theorem total_le (bytes : Bytes) : total bytes ≤ 65535 * ((bytes.length + 1) / 2) := by
  fun_induction total bytes with
  | case1 high low rest ih =>
    have hword := (Bytes.word16 high low).toNat_lt
    rw [List.length_cons, List.length_cons]
    omega
  | case2 high =>
    have hword := (Bytes.word16 high 0).toNat_lt
    rw [List.length_singleton]
    omega
  | case3 => exact Nat.zero_le _

/-- Folding keeps a sum modulo 65535, since 65536 is one more than that. -/
theorem fold_fold_mod (sum : UInt32) :
    (fold (fold sum)).toNat % 65535 = sum.toNat % 65535 := by
  simp only [toNat_fold]
  omega

/-- Only a zero sum folds to zero. -/
theorem fold_fold_eq_zero_iff (sum : UInt32) : (fold (fold sum)).toNat = 0 ↔ sum.toNat = 0 := by
  simp only [toNat_fold]
  omega

/-- The value of a checksum: what the folded sum lacks of all ones. -/
theorem toNat_complement (sum : UInt32) :
    (complement sum).toNat = 65535 - (fold (fold sum)).toNat := by
  have hlt : 65535 - (fold (fold sum)).toNat < 65536 := by omega
  exact UInt16.toNat_ofNat_of_lt' hlt

/-- A checksum is zero exactly when the sum is a positive multiple of 65535. -/
theorem complement_eq_zero_iff (sum : UInt32) :
    complement sum = 0 ↔ 0 < sum.toNat ∧ 65535 ∣ sum.toNat := by
  have hlt := fold_fold_lt sum
  have hmod := fold_fold_mod sum
  have hzero := fold_fold_eq_zero_iff sum
  rw [← UInt16.toNat_inj, toNat_complement]
  show 65535 - (fold (fold sum)).toNat = 0 ↔ _
  omega

/-- A sum and its checksum make a positive multiple of 65535. -/
theorem dvd_add_complement (sum : UInt32) :
    0 < sum.toNat + (complement sum).toNat ∧ 65535 ∣ sum.toNat + (complement sum).toNat := by
  have hlt := fold_fold_lt sum
  have hmod := fold_fold_mod sum
  have hzero := fold_fold_eq_zero_iff sum
  rw [toNat_complement]
  omega

/-- A sum that does not outgrow 32 bits is carried exactly. -/
theorem toNat_sumFrom_of_lt {initial : UInt32} {bytes : Bytes}
    (h : initial.toNat + total bytes < 2 ^ 32) :
    (sumFrom initial bytes).toNat = initial.toNat + total bytes := by
  rw [toNat_sumFrom]
  exact Nat.mod_eq_of_lt h

/-- A sum that starts at nothing is the total. -/
theorem toNat_sumFrom_zero {bytes : Bytes} (h : total bytes < 2 ^ 32) :
    (sumFrom 0 bytes).toNat = total bytes := by
  rw [toNat_sumFrom_of_lt (by simpa using h)]
  exact Nat.zero_add _

/-- One's-complement addition of words: the carry out of the top comes back in at the bottom. -/
def carryAdd (a b : Nat) : Nat :=
  if a + b < 65536 then a + b else a + b - 65535

/-- The one's-complement sum of the words of a byte string, carried word by word as RFC 1071 has
it. -/
def onesSum : Bytes → Nat
  | high :: low :: rest => carryAdd (Bytes.word16 high low).toNat (onesSum rest)
  | [high] => (Bytes.word16 high 0).toNat
  | [] => 0

/-- The checksum of RFC 1071: the one's complement of the one's-complement sum. -/
def rfc1071 (bytes : Bytes) : Nat := 65535 - onesSum bytes

/-- A one's-complement sum is that residue of the total modulo 65535 that is zero of zero only. -/
theorem onesSum_spec (bytes : Bytes) :
    onesSum bytes ≤ 65535 ∧ onesSum bytes % 65535 = total bytes % 65535 ∧
      (onesSum bytes = 0 ↔ total bytes = 0) := by
  fun_induction onesSum bytes with
  | case1 high low rest ih =>
    have hword := (Bytes.word16 high low).toNat_lt
    obtain ⟨hle, hmod, hzero⟩ := ih
    unfold carryAdd
    rw [total]
    split <;> omega
  | case2 high =>
    have hword := (Bytes.word16 high 0).toNat_lt
    exact ⟨Nat.le_of_lt_succ hword, rfl, Iff.rfl⟩
  | case3 => exact ⟨Nat.zero_le _, rfl, Iff.rfl⟩

/-- Folding an exact sum at the end gives what carrying word by word does. -/
theorem toNat_complement_eq_rfc1071 {sum : UInt32} {bytes : Bytes} (h : sum.toNat = total bytes) :
    (complement sum).toNat = rfc1071 bytes := by
  have hlt := fold_fold_lt sum
  have hmod := fold_fold_mod sum
  have hzero := fold_fold_eq_zero_iff sum
  obtain ⟨hle, hmod', hzero'⟩ := onesSum_spec bytes
  rw [toNat_complement, rfc1071]
  omega

/-- A byte string that a carried sum has room for holds its own checksum exactly if its checksum by
RFC 1071 is zero. -/
theorem verify_iff_rfc1071 {bytes : Bytes} (h : total bytes < 2 ^ 32) :
    verify bytes = true ↔ rfc1071 bytes = 0 := by
  unfold verify ofBytes
  rw [beq_iff_eq, ← UInt16.toNat_inj, toNat_complement_eq_rfc1071 (toNat_sumFrom_zero h)]
  rfl

/-- What a short byte string must satisfy to hold its own checksum. -/
theorem verify_iff {bytes : Bytes} (h : total bytes < 2 ^ 32) :
    verify bytes = true ↔ 0 < total bytes ∧ 65535 ∣ total bytes := by
  unfold verify ofBytes
  rw [beq_iff_eq, complement_eq_zero_iff, toNat_sumFrom_zero h]

/-- A pseudo header has twelve bytes. -/
theorem length_pseudoHeader (src dst : Ipv4) (protocol : UInt8) (length : UInt16) :
    (pseudoHeader src dst protocol length).length = 12 := rfl

/-- The total of the words that a transport checksum covers: those of the pseudo header, and those
of the segment. -/
def coveredTotal (src dst : Ipv4) (segment : Bytes) : Nat :=
  total (pseudoHeader src dst udpProtocol (UInt16.ofNat segment.length)) + total segment

/-- The sum over the pseudo header and a segment is carried exactly. -/
theorem toNat_sumFrom_pseudoHeaderSum (src dst : Ipv4) {segment : Bytes}
    (h : segment.length < 65536) :
    (sumFrom (pseudoHeaderSum src dst udpProtocol (UInt16.ofNat segment.length)) segment).toNat =
      coveredTotal src dst segment := by
  have hpseudo := total_le (pseudoHeader src dst udpProtocol (UInt16.ofNat segment.length))
  rw [length_pseudoHeader] at hpseudo
  have hsegment := total_le segment
  have hfirst : (pseudoHeaderSum src dst udpProtocol (UInt16.ofNat segment.length)).toNat =
      total (pseudoHeader src dst udpProtocol (UInt16.ofNat segment.length)) :=
    toNat_sumFrom_zero (by omega)
  unfold coveredTotal
  rw [toNat_sumFrom_of_lt (by omega), hfirst]

/-- A segment sums to zero behind its pseudo header exactly when the words covered make a positive
multiple of 65535. -/
theorem udpComplement_eq_zero_iff (src dst : Ipv4) {segment : Bytes}
    (h : segment.length < 65536) :
    udpComplement src dst segment = 0 ↔
      0 < coveredTotal src dst segment ∧ 65535 ∣ coveredTotal src dst segment := by
  unfold udpComplement
  rw [complement_eq_zero_iff, toNat_sumFrom_pseudoHeaderSum src dst h]

/-- A segment sums to zero behind its pseudo header exactly when the checksum of the two in a row is
zero by RFC 1071. -/
theorem udpComplement_eq_zero_iff_rfc1071 (src dst : Ipv4) {segment : Bytes}
    (h : segment.length < 65536) :
    udpComplement src dst segment = 0 ↔
      rfc1071 (pseudoHeader src dst udpProtocol (UInt16.ofNat segment.length) ++ segment) = 0 := by
  have hsum := toNat_sumFrom_pseudoHeaderSum src dst h
  have heven : (pseudoHeader src dst udpProtocol (UInt16.ofNat segment.length)).length % 2 = 0 := by
    rw [length_pseudoHeader]
  rw [coveredTotal, ← total_append segment heven] at hsum
  unfold udpComplement
  rw [← UInt16.toNat_inj, toNat_complement_eq_rfc1071 hsum]
  rfl

/-- What a sender writes makes the words covered a positive multiple of 65535, also where it stands
for zero. -/
theorem dvd_add_ofUdp (src dst : Ipv4) {segment : Bytes} (h : segment.length < 65536) :
    0 < coveredTotal src dst segment + (ofUdp src dst segment).toNat ∧
      65535 ∣ coveredTotal src dst segment + (ofUdp src dst segment).toNat := by
  have hdvd := dvd_add_complement
    (sumFrom (pseudoHeaderSum src dst udpProtocol (UInt16.ofNat segment.length)) segment)
  rw [toNat_sumFrom_pseudoHeaderSum src dst h] at hdvd
  unfold ofUdp
  by_cases hzero : udpComplement src dst segment = 0
  · have hones : (0xFFFF : UInt16).toNat = 65535 := rfl
    have hnone : (0 : UInt16).toNat = 0 := rfl
    rw [udpComplement] at hzero
    rw [hzero, hnone] at hdvd
    simp only [udpComplement, hzero, if_true, hones]
    omega
  · simp only [hzero, if_false]
    exact hdvd

/-- A segment passes if its checksum field is zero, or by its sum. -/
theorem verifyUdp_iff (src dst : Ipv4) (segment : Bytes) :
    verifyUdp src dst segment = true ↔
      (∃ rest, segment.drop 6 = 0 :: 0 :: rest) ∨ udpComplement src dst segment = 0 := by
  unfold verifyUdp
  split
  · next rest hdrop => exact iff_of_true rfl (.inl ⟨rest, hdrop⟩)
  · next hdrop =>
    rw [beq_iff_eq]
    refine ⟨.inr, fun h => ?_⟩
    rcases h with ⟨rest, hzero⟩ | hsum
    · exact absurd hzero (hdrop rest)
    · exact hsum

end Checksum

namespace IpHeader

/-- The checksum field adds its value to the words of a header. -/
theorem total_layout (header : IpHeader) (check : UInt16) :
    Checksum.total (header.layout check) =
      Checksum.total (header.layout 0) + check.toNat := by
  have hword : (Bytes.word16 (UInt8.ofNat (check.toNat / 256)) (UInt8.ofNat check.toNat)).toNat =
      check.toNat := by
    rw [Bytes.word16_bytes16]
  have hzero : (Bytes.word16 (UInt8.ofNat ((0 : UInt16).toNat / 256))
      (UInt8.ofNat (0 : UInt16).toNat)).toNat = 0 := rfl
  simp only [layout, Bytes.bytes16, Ipv4.toBytes, List.cons_append, List.nil_append,
    Checksum.total, hword, hzero]
  omega

/-- The words of a header do not outgrow a carried sum. -/
theorem total_layout_lt (header : IpHeader) (check : UInt16) :
    Checksum.total (header.layout check) < 2 ^ 32 := by
  have hle := Checksum.total_le (header.layout check)
  rw [length_layout] at hle
  exact Nat.lt_of_le_of_lt hle (by decide)

/-- A written header holds its own checksum. -/
theorem verify_toBytes (header : IpHeader) : Checksum.verify header.toBytes = true := by
  have hsum := Checksum.toNat_sumFrom_zero (header.total_layout_lt 0)
  have hdvd := Checksum.dvd_add_complement (Checksum.sumFrom 0 (header.layout 0))
  rw [hsum] at hdvd
  rw [toBytes, Checksum.verify_iff (header.total_layout_lt _), total_layout]
  exact hdvd

end IpHeader

namespace Udp

/-- The checksum field adds its value to the words of a segment. -/
theorem total_segment (header : UdpHeader) (payload : Bytes) :
    Checksum.total (header.toBytes ++ payload) =
      Checksum.total ({ header with check := 0 }.toBytes ++ payload) + header.check.toNat := by
  have hzero : (0 : UInt16).toNat = 0 := rfl
  simp only [UdpHeader.toBytes, List.append_assoc, Checksum.total_bytes16_append, hzero]
  omega

/-- A written segment sums to zero behind its pseudo header. -/
theorem udpComplement_segment (src dst : Ipv4) (sport dport : UInt16) {payload : Bytes}
    (h : payload.length ≤ maxPayload) :
    Checksum.udpComplement src dst (segment src dst sport dport payload) = 0 := by
  have hmax : maxPayload = 65507 := rfl
  have hsize : UdpHeader.size = 8 := rfl
  have hlength : (segment src dst sport dport payload).length < 65536 := by
    rw [length_segment]
    omega
  rw [Checksum.udpComplement_eq_zero_iff src dst hlength]
  -- the field was blank when the checksum was taken, and nothing else has changed
  obtain ⟨blank, hblank⟩ : ∃ blank : UdpHeader, blank =
      ⟨sport, dport, UInt16.ofNat (UdpHeader.size + payload.length), 0⟩ := ⟨_, rfl⟩
  have hsegment : segment src dst sport dport payload =
      { blank with check := Checksum.ofUdp src dst (blank.toBytes ++ payload) }.toBytes ++
        payload := by
    rw [hblank]
    rfl
  have hsame : { blank with check := 0 } = blank := by
    rw [hblank]
  have hshort : (blank.toBytes ++ payload).length < 65536 := by
    rw [List.length_append, UdpHeader.length_toBytes]
    omega
  have hdvd := Checksum.dvd_add_ofUdp src dst hshort
  have htotal := total_segment
    { blank with check := Checksum.ofUdp src dst (blank.toBytes ++ payload) } payload
  simp only [hsame] at htotal
  unfold Checksum.coveredTotal at hdvd ⊢
  rw [hsegment, htotal]
  simpa only [List.length_append, UdpHeader.length_toBytes, Nat.add_assoc] using hdvd

end Udp

end NetStack
