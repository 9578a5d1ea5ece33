import NetStack.Bytes

/-!
# Addresses

An IPv4 address has four bytes and a hardware address six. Both have a value view (bytes, a long
word) and a text: dotted decimal for the first, hexadecimal pairs with colons for the second.
-/

namespace NetStack

/-- An IPv4 address, first byte first. -/
structure Ipv4 where
  a : UInt8
  b : UInt8
  c : UInt8
  d : UInt8
  deriving DecidableEq, Repr

namespace Ipv4

/-- The four bytes in network order. -/
def toBytes (ip : Ipv4) : Bytes := [ip.a, ip.b, ip.c, ip.d]

/-- The address as a long word, its first byte the most significant. -/
def toWord (ip : Ipv4) : UInt32 :=
  UInt32.ofNat (((ip.a.toNat * 256 + ip.b.toNat) * 256 + ip.c.toNat) * 256 + ip.d.toNat)

/-- The address whose first byte is the most significant byte of `word`. -/
def ofWord (word : UInt32) : Ipv4 where
  a := UInt8.ofNat (word.toNat / 16777216)
  b := UInt8.ofNat (word.toNat / 65536)
  c := UInt8.ofNat (word.toNat / 256)
  d := UInt8.ofNat word.toNat

/-- Dotted decimal text. -/
def text (ip : Ipv4) : String :=
  s!"{ip.a.toNat}.{ip.b.toNat}.{ip.c.toNat}.{ip.d.toNat}"

instance : ToString Ipv4 := ⟨text⟩

/-- Takes four bytes. -/
def reader : Reader Ipv4
  | a :: b :: c :: d :: rest => some (⟨a, b, c, d⟩, rest)
  | _ => none

@[simp] theorem length_toBytes (ip : Ipv4) : ip.toBytes.length = 4 := rfl

@[simp] theorem reader_append (ip : Ipv4) (rest : Bytes) :
    reader (ip.toBytes ++ rest) = some (ip, rest) := rfl

/-- The long word of an address determines it. -/
theorem ofWord_toWord (ip : Ipv4) : ofWord ip.toWord = ip := by
  obtain ⟨a, b, c, d⟩ := ip
  have ha := a.toNat_lt
  have hb := b.toNat_lt
  have hc := c.toNat_lt
  have hd := d.toNat_lt
  simp only [ofWord, toWord, UInt32.toNat_ofNat', mk.injEq]
  refine ⟨?_, ?_, ?_, ?_⟩ <;> apply UInt8.toNat.inj <;> simp only [UInt8.toNat_ofNat'] <;> omega

end Ipv4

/-- A hardware address of six bytes, in the order of transmission. -/
structure Mac where
  b0 : UInt8
  b1 : UInt8
  b2 : UInt8
  b3 : UInt8
  b4 : UInt8
  b5 : UInt8
  deriving DecidableEq, Repr

namespace Mac

/-- The six bytes in the order of transmission. -/
def toBytes (mac : Mac) : Bytes := [mac.b0, mac.b1, mac.b2, mac.b3, mac.b4, mac.b5]

/-- The address with all bytes zero. -/
def zero : Mac := ⟨0, 0, 0, 0, 0, 0⟩

/-- The address that every station listens to. -/
def broadcast : Mac := ⟨0xFF, 0xFF, 0xFF, 0xFF, 0xFF, 0xFF⟩

/-- Six pairs of lower-case hexadecimal digits with colons between them. -/
def text (mac : Mac) : String :=
  String.ofList ([':'].intercalate (mac.toBytes.map Bytes.hexByte))

instance : ToString Mac := ⟨text⟩

/-- Takes six bytes. -/
def reader : Reader Mac
  | b0 :: b1 :: b2 :: b3 :: b4 :: b5 :: rest => some (⟨b0, b1, b2, b3, b4, b5⟩, rest)
  | _ => none

@[simp] theorem length_toBytes (mac : Mac) : mac.toBytes.length = 6 := rfl

@[simp] theorem reader_append (mac : Mac) (rest : Bytes) :
    reader (mac.toBytes ++ rest) = some (mac, rest) := rfl

end Mac

end NetStack
