import NetStack.Proofs.Framing

/-!
# Checksums in their messages

No message of up to 131074 bytes outgrows a carried sum, so its checksum is known from the total of
its words: what that representative of the total modulo 65535 lacks of all ones that is zero of zero
only (`ofBytes_residue`). Written over two blank bytes between two words, a checksum adds exactly its
value to the total (`total_setWord`), and the message sums to zero.

A segment is summed apart from its pseudo header, which comes to the same as summing the two in a
row (`udpComplement_eq_ofBytes`). A segment's checksum therefore does for the segment what a
message's does for the message, also where it stands for zero (`ofUdp_covered`).
-/

namespace NetStack

namespace Bytes

/-- The byte string with a word written over the two bytes at an offset. -/
def setWord (bytes : Bytes) (offset : Nat) (word : UInt16) : Bytes :=
  bytes.take offset ++ (bytes16 word ++ bytes.drop (offset + 2))

/-- Two zero bytes stand at an offset. -/
def BlankAt (bytes : Bytes) (offset : Nat) : Prop :=
  bytes[offset]? = some 0 ∧ bytes[offset + 1]? = some 0

instance (bytes : Bytes) (offset : Nat) : Decidable (bytes.BlankAt offset) :=
  inferInstanceAs (Decidable (_ ∧ _))

variable {bytes : Bytes} {offset : Nat}

/-- Two blank bytes lie within the byte string. -/
theorem BlankAt.le_length (h : bytes.BlankAt offset) : offset + 2 ≤ bytes.length := by
  obtain ⟨hlt, -⟩ := List.getElem?_eq_some_iff.1 h.2
  omega

/-- Two blank bytes at an offset are a zero word there. -/
theorem blankAt_iff : bytes.BlankAt offset ↔ ∃ rest, bytes.drop offset = bytes16 0 ++ rest := by
  unfold BlankAt
  constructor
  · rintro ⟨hhigh, hlow⟩
    obtain ⟨hhighLt, hhigh⟩ := List.getElem?_eq_some_iff.1 hhigh
    obtain ⟨hlowLt, hlow⟩ := List.getElem?_eq_some_iff.1 hlow
    refine ⟨bytes.drop (offset + 2), ?_⟩
    rw [List.drop_eq_getElem_cons hhighLt, List.drop_eq_getElem_cons hlowLt, hhigh, hlow]
    rfl
  · rintro ⟨rest, hrest⟩
    have hhigh := congrArg (·[0]?) hrest
    have hlow := congrArg (·[1]?) hrest
    simp only [List.getElem?_drop, Nat.add_zero] at hhigh hlow
    exact ⟨hhigh, hlow⟩

/-- A word written within a byte string keeps its length. -/
theorem length_setWord (h : offset + 2 ≤ bytes.length) (word : UInt16) :
    (bytes.setWord offset word).length = bytes.length := by
  unfold setWord
  rw [List.length_append, List.length_append, length_bytes16, List.length_take, List.length_drop]
  omega

/-- A written word stands at its offset. -/
theorem drop_setWord (h : offset + 2 ≤ bytes.length) (word : UInt16) :
    (bytes.setWord offset word).drop offset = bytes16 word ++ bytes.drop (offset + 2) := by
  have htake : (bytes.take offset).length = offset := by
    rw [List.length_take]
    omega
  unfold setWord
  exact List.drop_left' htake

/-- Blank bytes are a written zero. -/
theorem BlankAt.setWord_zero (h : bytes.BlankAt offset) : bytes.setWord offset 0 = bytes := by
  obtain ⟨rest, hrest⟩ := blankAt_iff.1 h
  have hbehind : bytes.drop (offset + 2) = rest := by
    rw [← List.drop_drop, hrest]
    exact List.drop_left' (length_bytes16 0)
  unfold setWord
  rw [hbehind, ← hrest, List.take_append_drop]

/-- Where a word was written two blank bytes stand exactly if it is zero. -/
theorem blankAt_setWord_iff (h : offset + 2 ≤ bytes.length) (word : UInt16) :
    (bytes.setWord offset word).BlankAt offset ↔ word = 0 := by
  rw [blankAt_iff, drop_setWord h]
  constructor
  · rintro ⟨rest, hrest⟩
    exact (bytes16_append_inj hrest).1
  · rintro rfl
    exact ⟨_, rfl⟩

end Bytes

namespace Checksum

/-- A sum may be carried on from one byte string to the next, if the first one ends between two
words. -/
theorem sumFrom_append (initial : UInt32) {first : Bytes} (rest : Bytes)
    (heven : first.length % 2 = 0) :
    sumFrom initial (first ++ rest) = sumFrom (sumFrom initial first) rest := by
  fun_induction sumFrom initial first with
  | case1 initial high low first ih =>
    have hshorter : first.length % 2 = 0 := by
      rw [List.length_cons, List.length_cons] at heven
      omega
    exact ih hshorter
  | case2 initial high =>
    rw [List.length_singleton] at heven
    omega
  | case3 initial => rw [List.nil_append]

/-- A word written over blank bytes between two words adds its value to the total. -/
theorem total_setWord {bytes : Bytes} {offset : Nat} (heven : offset % 2 = 0)
    (hblank : bytes.BlankAt offset) (word : UInt16) :
    total (bytes.setWord offset word) = total bytes + word.toNat := by
  have hlength := hblank.le_length
  have hfront : (bytes.take offset).length % 2 = 0 := by
    rw [List.length_take]
    omega
  -- the total splits at the word, and only the word's part depends on what is written
  have hwritten (w : UInt16) : total (bytes.setWord offset w) =
      total (bytes.take offset) + (w.toNat + total (bytes.drop (offset + 2))) := by
    unfold Bytes.setWord
    rw [total_append _ hfront, total_bytes16_append]
  have hbefore := hwritten 0
  have hnone : (0 : UInt16).toNat = 0 := rfl
  rw [hblank.setWord_zero, hnone] at hbefore
  rw [hwritten, hbefore]
  omega

/-- Up to 131074 bytes the total of the words fits a carried sum; the longest message of ones just
does. -/
theorem total_lt_of_length_le {bytes : Bytes} (h : bytes.length ≤ 131074) :
    total bytes < 2 ^ 32 := by
  have hle := total_le bytes
  omega

/-- A checksum written over blank bytes between two words makes its message sum to zero. -/
theorem verify_setWord {bytes : Bytes} {offset : Nat} (h : bytes.length ≤ 131074)
    (heven : offset % 2 = 0) (hblank : bytes.BlankAt offset) :
    verify (bytes.setWord offset (ofBytes bytes)) = true := by
  have hlength := Bytes.length_setWord hblank.le_length (ofBytes bytes)
  -- the carried sum is the total itself, to which the stored word adds its complement
  have hexact := toNat_sumFrom_zero (total_lt_of_length_le h)
  have hdvd := dvd_add_complement (sumFrom 0 bytes)
  rw [hexact] at hdvd
  have hwritten : (bytes.setWord offset (ofBytes bytes)).length ≤ 131074 := by
    rw [hlength]
    exact h
  rw [verify_iff (total_lt_of_length_le hwritten), total_setWord heven hblank]
  exact hdvd

/-- A byte string holds its own checksum exactly if its checksum is zero. -/
theorem verify_eq_true_iff (bytes : Bytes) : verify bytes = true ↔ ofBytes bytes = 0 := by
  unfold verify
  exact beq_iff_eq

/-- Up to 131074 bytes, a checksum is what the total of the message's words lacks of all ones, once
it is brought modulo 65535 to zero, if it is zero, and else to a number from 1 to 65535. A message
verifies if its total is a positive multiple of 65535, and so does every message with a blank word
once its checksum is written there. -/
theorem ofBytes_residue {bytes : Bytes} (h : bytes.length ≤ 131074) :
    (∃ r, (ofBytes bytes).toNat = 0xFFFF - r ∧ (total bytes = 0 → r = 0) ∧
      (total bytes ≠ 0 → 1 ≤ r ∧ r ≤ 65535 ∧ r % 65535 = total bytes % 65535)) ∧
    (verify bytes = true ↔ 0 < total bytes ∧ 65535 ∣ total bytes) ∧
    ∀ offset, offset % 2 = 0 → bytes.BlankAt offset →
      ofBytes (bytes.setWord offset (ofBytes bytes)) = 0 ∧
        verify (bytes.setWord offset (ofBytes bytes)) = true := by
  have hexact := toNat_sumFrom_zero (total_lt_of_length_le h)
  refine ⟨?_, verify_iff (total_lt_of_length_le h), fun offset heven hblank => ?_⟩
  · -- the residue is the folded sum
    have hlt := fold_fold_lt (sumFrom 0 bytes)
    have hmod := fold_fold_mod (sumFrom 0 bytes)
    have hzero := fold_fold_eq_zero_iff (sumFrom 0 bytes)
    rw [hexact] at hmod hzero
    refine ⟨(fold (fold (sumFrom 0 bytes))).toNat, ?_, ?_, ?_⟩
    · unfold ofBytes
      rw [toNat_complement]
    · exact hzero.2
    · intro hpos
      omega
  · have hverify := verify_setWord h heven hblank
    exact ⟨(verify_eq_true_iff _).1 hverify, hverify⟩

-- the numerical example of RFC 1071, which sums to 0xddf2
example : ofBytes [0x00, 0x01, 0xf2, 0x03, 0xf4, 0xf5, 0xf6, 0xf7] = 0x220d := by decide

/-- The longest message that a carried sum has room for, with a blank in front. -/
theorem exists_longest_message : ∃ bytes : Bytes, bytes.length = 131074 ∧ bytes.BlankAt 0 ∧
    ofBytes (bytes.setWord 0 (ofBytes bytes)) = 0 ∧
      verify (bytes.setWord 0 (ofBytes bytes)) = true := by
  have hlength : ([0, 0] ++ List.replicate 131072 (0xAB : UInt8)).length = 131074 := by
    rw [List.length_append, List.length_replicate]
    rfl
  have hblank : Bytes.BlankAt ([0, 0] ++ List.replicate 131072 0xAB) 0 := ⟨rfl, rfl⟩
  obtain ⟨-, -, hstored⟩ := ofBytes_residue (Nat.le_of_eq hlength)
  exact ⟨_, hlength, hblank, hstored 0 rfl hblank⟩

/-- The bytes that a UDP checksum covers: the addresses, the protocol and the length of the segment,
and the segment. -/
def covered (src dst : Ipv4) (segment : Bytes) : Bytes :=
  src.toBytes ++ dst.toBytes ++ [0, 17] ++ Bytes.bytes16 (UInt16.ofNat segment.length) ++ segment

/-- A segment is covered behind its pseudo header. -/
theorem covered_eq (src dst : Ipv4) (segment : Bytes) : covered src dst segment =
    pseudoHeader src dst udpProtocol (UInt16.ofNat segment.length) ++ segment := rfl

/-- The complemented sum of a segment behind its pseudo header is the checksum of the bytes covered.
-/
theorem udpComplement_eq_ofBytes (src dst : Ipv4) (segment : Bytes) :
    udpComplement src dst segment = ofBytes (covered src dst segment) := by
  have heven : (pseudoHeader src dst udpProtocol (UInt16.ofNat segment.length)).length % 2 = 0 := by
    rw [length_pseudoHeader]
  unfold udpComplement pseudoHeaderSum ofBytes
  rw [covered_eq, sumFrom_append 0 segment heven]

/-- A segment's checksum, stored in its blank checksum field, makes the words covered a positive
multiple of 65535. -/
theorem udpComplement_setWord (src dst : Ipv4) {segment : Bytes} (h : segment.length ≤ 65535)
    (hblank : segment.BlankAt 6) :
    udpComplement src dst (segment.setWord 6 (ofUdp src dst segment)) = 0 := by
  have hlength := Bytes.length_setWord hblank.le_length (ofUdp src dst segment)
  have hdvd := dvd_add_ofUdp src dst (Nat.lt_succ_of_le h)
  rw [udpComplement_eq_zero_iff src dst (by omega)]
  unfold coveredTotal at hdvd ⊢
  rw [hlength, total_setWord (by decide) hblank, ← Nat.add_assoc]
  exact hdvd

/-- The checksum of a segment is that of the bytes covered, with all ones in place of zero. Stored
in a blank checksum field it makes the segment pass by its sum, and not because the field says that
it was left out. A segment passes for no other reasons than these two. -/
theorem ofUdp_covered (src dst : Ipv4) {segment : Bytes} (h : segment.length ≤ 65535) :
    ofUdp src dst segment =
      (if ofBytes (covered src dst segment) = 0 then 0xFFFF
        else ofBytes (covered src dst segment)) ∧
    ofUdp src dst segment ≠ 0 ∧
    (8 ≤ segment.length → segment.BlankAt 6 →
      let stored := segment.setWord 6 (ofUdp src dst segment)
      verifyUdp src dst stored = true ∧ ofBytes (covered src dst stored) = 0 ∧
        ¬stored.BlankAt 6) ∧
    (verifyUdp src dst segment = true ↔
      (8 ≤ segment.length ∧ segment.BlankAt 6) ∨ rfc1071 (covered src dst segment) = 0) := by
  have hnonzero := ofUdp_ne_zero src dst segment
  refine ⟨?_, hnonzero, fun _ hblank => ?_, ?_⟩
  · unfold ofUdp
    rw [udpComplement_eq_ofBytes]
  · have hzero := udpComplement_setWord src dst h hblank
    refine ⟨(verifyUdp_iff _ _ _).2 (.inr hzero), ?_, ?_⟩
    · rw [← udpComplement_eq_ofBytes, hzero]
    · rw [Bytes.blankAt_setWord_iff hblank.le_length]
      exact hnonzero
  · have hfield : (∃ rest, segment.drop 6 = 0 :: 0 :: rest) ↔
        8 ≤ segment.length ∧ segment.BlankAt 6 :=
      Bytes.blankAt_iff.symm.trans ⟨fun hblank => ⟨hblank.le_length, hblank⟩, And.right⟩
    have hsum := udpComplement_eq_zero_iff_rfc1071 src dst (Nat.lt_succ_of_le h)
    rw [verifyUdp_iff, hfield, hsum, covered_eq]

/-- A segment of odd length whose words and pseudo header sum to all ones: all ones are stored for
the zero that this makes, and the segment passes by its sum. -/
theorem exists_summing_to_ones : ∃ segment : Bytes, segment.length ≤ 65535 ∧
    8 ≤ segment.length ∧ segment.BlankAt 6 ∧
    ofBytes (covered ⟨10, 0, 2, 15⟩ ⟨10, 0, 2, 2⟩ segment) = 0 ∧
    let stored := segment.setWord 6 (ofUdp ⟨10, 0, 2, 15⟩ ⟨10, 0, 2, 2⟩ segment)
    stored = [0, 7, 0, 9, 0, 11, 0xFF, 0xFF, 60, 183, 171] ∧
      verifyUdp ⟨10, 0, 2, 15⟩ ⟨10, 0, 2, 2⟩ stored = true ∧
      ofBytes (covered ⟨10, 0, 2, 15⟩ ⟨10, 0, 2, 2⟩ stored) = 0 := by
  obtain ⟨hvalue, -, hstored, -⟩ := ofUdp_covered ⟨10, 0, 2, 15⟩ ⟨10, 0, 2, 2⟩
    (show ([0, 7, 0, 9, 0, 11, 0, 0, 60, 183, 171] : Bytes).length ≤ 65535 by decide)
  have hzero : ofBytes (covered ⟨10, 0, 2, 15⟩ ⟨10, 0, 2, 2⟩
      [0, 7, 0, 9, 0, 11, 0, 0, 60, 183, 171]) = 0 := by decide
  rw [if_pos hzero] at hvalue
  obtain ⟨hpasses, hsum, -⟩ := hstored (by decide) (by decide)
  refine ⟨_, by decide, by decide, by decide, hzero, ?_, hpasses, hsum⟩
  rw [hvalue]
  decide

end Checksum

end NetStack
