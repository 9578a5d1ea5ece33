import NetStack.Address

/-!
# The Internet checksum

A checksum is the one's complement of the one's-complement sum of 16-bit words in network order; an
odd last byte counts as the high byte of a word. The sum is carried in 32 bits, so that a message
may be summed in pieces, and is folded to 16 bits only at the end. `toNat_sumFrom` ties the carried
sum to the unbounded total of the words.
-/

namespace NetStack.Checksum

/-- The 32-bit sum of the words of `bytes`, started at `initial` and wrapping. -/
def sumFrom (initial : UInt32) : Bytes → UInt32
  | high :: low :: rest => sumFrom (initial + UInt32.ofNat (Bytes.word16 high low).toNat) rest
  | [high] => initial + UInt32.ofNat (Bytes.word16 high 0).toNat
  | [] => initial

/-- The unbounded total of the words of a byte string. -/
def total : Bytes → Nat
  | high :: low :: rest => (Bytes.word16 high low).toNat + total rest
  | [high] => (Bytes.word16 high 0).toNat
  | [] => 0

/-- The carried sum is the initial value plus the total of the words, modulo 2 ^ 32. -/
theorem toNat_sumFrom (initial : UInt32) (bytes : Bytes) :
    (sumFrom initial bytes).toNat = (initial.toNat + total bytes) % UInt32.size := by
  fun_induction sumFrom initial bytes with
  | case1 initial high low rest ih =>
    simp only [ih, total, UInt32.size, UInt32.toNat_add, UInt32.toNat_ofNat']
    omega
  | case2 initial high =>
    simp only [total, UInt32.size, UInt32.toNat_add, UInt32.toNat_ofNat']
    omega
  | case3 initial =>
    have h := initial.toNat_lt
    simp only [total, UInt32.size]
    omega

/-- The high half of a sum added to its low half. -/
def fold (sum : UInt32) : UInt32 :=
  UInt32.ofNat (sum.toNat % 65536 + sum.toNat / 65536)

/-- Folding adds the two halves exactly: their sum needs only seventeen bits. -/
theorem toNat_fold (sum : UInt32) :
    (fold sum).toNat = sum.toNat % 65536 + sum.toNat / 65536 := by
  have h := sum.toNat_lt
  simp only [fold, UInt32.toNat_ofNat']
  omega

/-- Two folds bring any sum below 2 ^ 16; a third would change nothing. -/
theorem fold_fold_lt (sum : UInt32) : (fold (fold sum)).toNat < 65536 := by
  have h := sum.toNat_lt
  simp only [toNat_fold]
  omega

/-- The checksum of a carried sum: its two halves added until 16 bits hold them, complemented. -/
def complement (sum : UInt32) : UInt16 :=
  -- the subtraction is exact: two folds leave at most 65535
  UInt16.ofNat (65535 - (fold (fold sum)).toNat)

/-- The Internet checksum of a byte string. -/
def ofBytes (bytes : Bytes) : UInt16 :=
  complement (sumFrom 0 bytes)

/-- A byte string that holds its own checksum sums to zero. -/
def verify (bytes : Bytes) : Bool :=
  ofBytes bytes == 0

/-- The number of the UDP protocol in an IPv4 header. -/
def udpProtocol : UInt8 := 17

/-- The twelve bytes of addresses, protocol and length that a transport checksum covers. -/
def pseudoHeader (src dst : Ipv4) (protocol : UInt8) (length : UInt16) : Bytes :=
  src.toBytes ++ dst.toBytes ++ [0, protocol] ++ Bytes.bytes16 length

/-- The carried sum of the pseudo header. -/
def pseudoHeaderSum (src dst : Ipv4) (protocol : UInt8) (length : UInt16) : UInt32 :=
  sumFrom 0 (pseudoHeader src dst protocol length)

/-- The complemented sum of a UDP segment behind its pseudo header. The length in the pseudo header
is that of the segment modulo 2 ^ 16. -/
def udpComplement (src dst : Ipv4) (segment : Bytes) : UInt16 :=
  complement (sumFrom
    (pseudoHeaderSum src dst udpProtocol (UInt16.ofNat segment.length)) segment)

/-- The checksum that a sender writes into a UDP header: zero would mean "not computed", so its
other representation stands for it. -/
def ofUdp (src dst : Ipv4) (segment : Bytes) : UInt16 :=
  let sum := udpComplement src dst segment
  if sum = 0 then 0xFFFF else sum

/-- A segment passes if its sender left the checksum field zero, or if it sums to zero. -/
def verifyUdp (src dst : Ipv4) (segment : Bytes) : Bool :=
  match segment.drop 6 with
  -- bytes 6 and 7 are the checksum field of the UDP header
  | 0 :: 0 :: _ => true
  | _ => udpComplement src dst segment == 0

/-- A sender never writes a zero checksum. -/
theorem ofUdp_ne_zero (src dst : Ipv4) (segment : Bytes) : ofUdp src dst segment ≠ 0 := by
  by_cases h : udpComplement src dst segment = 0 <;> simp [ofUdp, h]

end NetStack.Checksum
