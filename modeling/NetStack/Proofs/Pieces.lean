import NetStack.Proofs.Checksums

/-!
# Sums in pieces

A carried sum is handed from one piece of a message to the next. Every piece adds the total of its
own words, whatever came before it (`toNat_foldl_sumFrom`), so that the order of the pieces makes no
difference to the sum (`foldl_sumFrom_perm`). A piece that ends within a word counts as if a zero
byte filled it up (`foldl_sumFrom_eq_flatten_padded`); where this happens to no piece but the last
one, the pieces sum to what the message does that they make in a row (`foldl_sumFrom_eq_flatten`).

A segment may therefore be summed behind its pseudo header in any such pieces
(`udpComplement_flatten`), and a checksum does not tell the two ends of a datagram apart
(`ofUdp_reply`).
-/

namespace NetStack.Checksum

/-- No piece of a message ends within a word, but for the last one. -/
def SplitAtWords (pieces : List Bytes) : Prop :=
  ∀ piece ∈ pieces.dropLast, piece.length % 2 = 0

instance (pieces : List Bytes) : Decidable (SplitAtWords pieces) :=
  inferInstanceAs (Decidable (∀ piece ∈ pieces.dropLast, piece.length % 2 = 0))

/-- Of two pieces or more, the first one ends between two words, and the others are split in the
same way. -/
theorem splitAtWords_cons_cons_iff {first second : Bytes} {rest : List Bytes} :
    SplitAtWords (first :: second :: rest) ↔
      first.length % 2 = 0 ∧ SplitAtWords (second :: rest) := by
  unfold SplitAtWords
  rw [List.dropLast_cons_cons, List.forall_mem_cons]

/-- Pieces that all end between two words may be put in any order. -/
theorem splitAtWords_of_forall {pieces : List Bytes} (h : ∀ piece ∈ pieces, piece.length % 2 = 0) :
    SplitAtWords pieces :=
  fun piece hpiece => h piece (List.dropLast_subset pieces hpiece)

/-- Each piece adds its own total. -/
theorem toNat_foldl_sumFrom (initial : UInt32) (pieces : List Bytes) :
    (pieces.foldl sumFrom initial).toNat =
      (initial.toNat + (pieces.map total).sum) % UInt32.size := by
  induction pieces generalizing initial with
  | nil => exact (Nat.mod_eq_of_lt initial.toNat_lt).symm
  | cons piece pieces ih =>
    rw [List.foldl_cons, ih, toNat_sumFrom, List.map_cons, List.sum_cons, Nat.mod_add_mod,
      Nat.add_assoc]

/-- The order of the pieces makes no difference to what is carried through them. -/
theorem foldl_sumFrom_perm (initial : UInt32) {pieces others : List Bytes}
    (h : others.Perm pieces) : others.foldl sumFrom initial = pieces.foldl sumFrom initial := by
  apply UInt32.toNat.inj
  rw [toNat_foldl_sumFrom, toNat_foldl_sumFrom, (h.map total).sum_nat]

/-- A message may be summed in pieces that do not split its words. -/
theorem foldl_sumFrom_eq_flatten (initial : UInt32) {pieces : List Bytes}
    (h : SplitAtWords pieces) : pieces.foldl sumFrom initial = sumFrom initial pieces.flatten := by
  induction pieces generalizing initial with
  | nil => rfl
  | cons first pieces ih =>
    cases pieces with
    | nil => rw [List.flatten_singleton, List.foldl_cons, List.foldl_nil]
    | cons second rest =>
      obtain ⟨heven, hrest⟩ := splitAtWords_cons_cons_iff.1 h
      calc (first :: second :: rest).foldl sumFrom initial
          = (second :: rest).foldl sumFrom (sumFrom initial first) := List.foldl_cons ..
        _ = sumFrom (sumFrom initial first) (second :: rest).flatten := ih _ hrest
        _ = sumFrom initial (first ++ (second :: rest).flatten) :=
          (sumFrom_append initial _ heven).symm
        _ = sumFrom initial (first :: second :: rest).flatten := by rw [← List.flatten_cons]

/-- A message that is split between words only sums, from any initial value, to what its pieces sum
to one after another, and pieces that are put in another order without splitting a word make a
message of the same sum. -/
theorem sumFrom_pieces (initial : UInt32) {pieces : List Bytes} (h : SplitAtWords pieces) :
    pieces.foldl sumFrom initial = sumFrom initial pieces.flatten ∧
    ∀ others : List Bytes, others.Perm pieces → SplitAtWords others →
      others.foldl sumFrom initial = pieces.foldl sumFrom initial ∧
        sumFrom initial others.flatten = sumFrom initial pieces.flatten := by
  have hwhole := foldl_sumFrom_eq_flatten initial h
  refine ⟨hwhole, fun others hperm hothers => ?_⟩
  have hsame := foldl_sumFrom_perm initial hperm
  refine ⟨hsame, ?_⟩
  calc sumFrom initial others.flatten
      = others.foldl sumFrom initial := (foldl_sumFrom_eq_flatten initial hothers).symm
    _ = pieces.foldl sumFrom initial := hsame
    _ = sumFrom initial pieces.flatten := hwhole

/-- Three pieces of which the last one ends within a word, with the first two exchanged; their sum
outgrows 32 bits. -/
theorem exists_pieces : ∃ pieces others : List Bytes,
    SplitAtWords pieces ∧ others.Perm pieces ∧ SplitAtWords others ∧
      pieces.foldl sumFrom 0xFFFFFFF0 = 0x1E158 ∧ sumFrom 0xFFFFFFF0 pieces.flatten = 0x1E158 ∧
      others ≠ pieces ∧ sumFrom 0xFFFFFFF0 others.flatten = 0x1E158 := by
  have hsplit : SplitAtWords [[0x12, 0x34], [0x56, 0x78, 0x9a, 0xbc], [0xde]] := by decide
  have hperm : [[0x56, 0x78, 0x9a, 0xbc], [0x12, 0x34], [0xde]].Perm
      [[0x12, 0x34], [0x56, 0x78, 0x9a, 0xbc], ([0xde] : Bytes)] := .swap _ _ _
  have hothers : SplitAtWords [[0x56, 0x78, 0x9a, 0xbc], [0x12, 0x34], [0xde]] := by decide
  have hsum : sumFrom 0xFFFFFFF0 [0x12, 0x34, 0x56, 0x78, 0x9a, 0xbc, 0xde] = 0x1E158 := by decide
  obtain ⟨hwhole, hreordered⟩ := sumFrom_pieces 0xFFFFFFF0 hsplit
  obtain ⟨-, hsame⟩ := hreordered _ hperm hothers
  exact ⟨_, _, hsplit, hperm, hothers, hwhole.trans hsum, hsum, by decide, hsame.trans hsum⟩

/-! ## Pieces that end within a word -/

/-- A zero byte behind a byte string does not change its total. -/
theorem total_append_zero (bytes : Bytes) : total (bytes ++ [0]) = total bytes := by
  fun_induction total bytes with
  | case1 high low rest ih =>
    show (Bytes.word16 high low).toNat + total (rest ++ [0]) = _
    rw [ih]
  | case2 high => rfl
  | case3 => rfl

/-- The byte string up to the end of its last word. -/
def padded (bytes : Bytes) : Bytes :=
  if bytes.length % 2 = 0 then bytes else bytes ++ [0]

/-- A padded byte string ends between two words. -/
theorem length_padded (bytes : Bytes) : (padded bytes).length % 2 = 0 := by
  unfold padded
  split
  · assumption
  · rw [List.length_append, List.length_singleton]
    omega

/-- Padding does not change a total. -/
theorem total_padded (bytes : Bytes) : total (padded bytes) = total bytes := by
  unfold padded
  split
  · rfl
  · exact total_append_zero bytes

/-- In whatever pieces a message comes, they sum to what the message of the padded pieces does. -/
theorem foldl_sumFrom_eq_flatten_padded (initial : UInt32) (pieces : List Bytes) :
    pieces.foldl sumFrom initial = sumFrom initial (pieces.map padded).flatten := by
  have hsplit : SplitAtWords (pieces.map padded) :=
    splitAtWords_of_forall (List.forall_mem_map.2 fun piece _ => length_padded piece)
  have htotals : (pieces.map padded).map total = pieces.map total := by
    rw [List.map_map]
    exact List.map_congr_left fun piece _ => total_padded piece
  apply UInt32.toNat.inj
  rw [← foldl_sumFrom_eq_flatten initial hsplit, toNat_foldl_sumFrom, toNat_foldl_sumFrom, htotals]

-- within a message, a piece that splits a word is not what the message has in its place
example : [[0x01], [0x02]].foldl sumFrom 0 = 0x0300 ∧ sumFrom 0 [0x01, 0x02] = 0x0102 := by decide

/-! ## Segments -/

/-- A segment may be summed behind its pseudo header in pieces. -/
theorem udpComplement_flatten (src dst : Ipv4) {pieces : List Bytes} (h : SplitAtWords pieces) :
    udpComplement src dst pieces.flatten =
      complement (pieces.foldl sumFrom
        (pseudoHeaderSum src dst udpProtocol (UInt16.ofNat pieces.flatten.length))) := by
  unfold udpComplement
  rw [foldl_sumFrom_eq_flatten _ h]

/-- The bytes that a UDP checksum covers, in pieces: the two addresses, the protocol, the length, the
two ports, and what follows them in the segment. -/
def coveredPieces (src dst : Ipv4) (sport dport : UInt16) (rest : Bytes) : List Bytes :=
  [src.toBytes, dst.toBytes, [0, 17], Bytes.bytes16 (UInt16.ofNat (4 + rest.length)),
    Bytes.bytes16 sport, Bytes.bytes16 dport, rest]

/-- The pieces split no word, whatever follows the ports. -/
theorem splitAtWords_coveredPieces (src dst : Ipv4) (sport dport : UInt16) (rest : Bytes) :
    SplitAtWords (coveredPieces src dst sport dport rest) := by
  simp [SplitAtWords, coveredPieces]

/-- In a row the pieces are what is covered. -/
theorem flatten_coveredPieces (src dst : Ipv4) (sport dport : UInt16) (rest : Bytes) :
    (coveredPieces src dst sport dport rest).flatten =
      covered src dst (Bytes.bytes16 sport ++ (Bytes.bytes16 dport ++ rest)) := by
  have hlength : (Bytes.bytes16 sport ++ (Bytes.bytes16 dport ++ rest)).length =
      4 + rest.length := by
    simp only [List.length_append, Bytes.length_bytes16]
    omega
  unfold covered
  rw [hlength]
  simp [coveredPieces]

/-- The two ends of a datagram stand in pieces of their own. -/
theorem coveredPieces_perm (src dst : Ipv4) (sport dport : UInt16) (rest : Bytes) :
    (coveredPieces dst src dport sport rest).Perm (coveredPieces src dst sport dport rest) :=
  (List.Perm.swap ..).trans (.cons _ <| .cons _ <| .cons _ <| .cons _ <| .swap ..)

/-- What is sent back to where it came from keeps its checksum. -/
theorem ofUdp_reply (src dst : Ipv4) (sport dport : UInt16) (rest : Bytes) :
    ofUdp dst src (Bytes.bytes16 dport ++ (Bytes.bytes16 sport ++ rest)) =
      ofUdp src dst (Bytes.bytes16 sport ++ (Bytes.bytes16 dport ++ rest)) := by
  have hsum : sumFrom 0 (coveredPieces dst src dport sport rest).flatten =
      sumFrom 0 (coveredPieces src dst sport dport rest).flatten := by
    rw [← foldl_sumFrom_eq_flatten 0 (splitAtWords_coveredPieces dst src dport sport rest),
      ← foldl_sumFrom_eq_flatten 0 (splitAtWords_coveredPieces src dst sport dport rest),
      foldl_sumFrom_perm 0 (coveredPieces_perm src dst sport dport rest)]
  unfold ofUdp
  simp only [udpComplement_eq_ofBytes, ofBytes, ← flatten_coveredPieces, hsum]

end NetStack.Checksum
