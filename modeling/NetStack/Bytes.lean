/-!
# Bytes on the wire

Frames, payloads and buffers are lists of bytes. Words of two bytes stand in network order: the
high byte first. `word16_bytes16` and `bytes16_word16` say that a word and its two bytes are the
same thing, and a `Reader` takes values off the front of a byte string.
-/

namespace NetStack

/-- A string of bytes: a frame, a payload, or the contents of a buffer. -/
abbrev Bytes := List UInt8

namespace Bytes

/-- The word with the given high and low bytes. -/
def word16 (high low : UInt8) : UInt16 :=
  UInt16.ofNat (high.toNat * 256 + low.toNat)

/-- The two bytes of a word, high byte first. -/
def bytes16 (word : UInt16) : Bytes :=
  [UInt8.ofNat (word.toNat / 256), UInt8.ofNat word.toNat]

/-- The value of a word is its high byte times 256 plus its low byte. -/
theorem toNat_word16 (high low : UInt8) :
    (word16 high low).toNat = high.toNat * 256 + low.toNat := by
  have h := high.toNat_lt
  have l := low.toNat_lt
  simp only [word16, UInt16.toNat_ofNat']
  omega

/-- Reading the bytes of a word gives the word back. -/
theorem word16_bytes16 (word : UInt16) :
    word16 (UInt8.ofNat (word.toNat / 256)) (UInt8.ofNat word.toNat) = word := by
  apply UInt16.toNat.inj
  have h := word.toNat_lt
  simp only [toNat_word16, UInt8.toNat_ofNat']
  omega

/-- Writing the word of two bytes gives the bytes back. -/
theorem bytes16_word16 (high low : UInt8) : bytes16 (word16 high low) = [high, low] := by
  have h := high.toNat_lt
  have l := low.toNat_lt
  simp only [bytes16, toNat_word16, List.cons.injEq, and_true]
  constructor <;> apply UInt8.toNat.inj <;> simp only [UInt8.toNat_ofNat'] <;> omega

@[simp] theorem length_bytes16 (word : UInt16) : (bytes16 word).length = 2 := rfl

/-- The word with its two bytes exchanged: what a little-endian host stores for network order. -/
def swap16 (word : UInt16) : UInt16 :=
  word16 (UInt8.ofNat word.toNat) (UInt8.ofNat (word.toNat / 256))

/-- The long word with its four bytes in the opposite order. -/
def swap32 (word : UInt32) : UInt32 :=
  -- the two halves change places, and each is exchanged in itself
  let low := swap16 (UInt16.ofNat word.toNat)
  let high := swap16 (UInt16.ofNat (word.toNat / 65536))
  UInt32.ofNat (low.toNat * 65536 + high.toNat)

/-- The high byte of an exchanged word is the low byte of the word. -/
theorem toNat_swap16 (word : UInt16) :
    (swap16 word).toNat = word.toNat % 256 * 256 + word.toNat / 256 := by
  have h := word.toNat_lt
  simp only [swap16, toNat_word16, UInt8.toNat_ofNat']
  omega

/-- Exchanging the bytes of a word twice gives the word back. -/
theorem swap16_swap16 (word : UInt16) : swap16 (swap16 word) = word := by
  apply UInt16.toNat.inj
  have h := word.toNat_lt
  simp only [toNat_swap16]
  omega

/-- `block` written over the start of `buffer`; a buffer shorter than the block refuses it. -/
def writeHead? (block buffer : Bytes) : Option Bytes :=
  if buffer.length < block.length then none else some (block ++ buffer.drop block.length)

/-- Writing at the start keeps the length of the buffer. -/
theorem length_of_writeHead? {block buffer result : Bytes}
    (h : writeHead? block buffer = some result) : result.length = buffer.length := by
  unfold writeHead? at h
  split at h
  · contradiction
  · cases h
    simp only [List.length_append, List.length_drop]
    omega

/-- The lower-case hexadecimal digit of a number below sixteen. -/
def hexDigit (value : Nat) : Char :=
  (Nat.toDigits 16 value).getLastD '0'

/-- The two lower-case hexadecimal digits of a byte. -/
def hexByte (byte : UInt8) : List Char :=
  [hexDigit (byte.toNat / 16), hexDigit (byte.toNat % 16)]

/-- A byte string as hexadecimal text, two digits a byte. -/
def hexText (bytes : Bytes) : String :=
  String.ofList (bytes.flatMap hexByte)

/-- A number in lower-case hexadecimal, without leading zeros. -/
def hexNat (value : Nat) : String :=
  String.ofList (Nat.toDigits 16 value)

/-- A number in lower-case hexadecimal, with zeros in front up to `width` digits. -/
def hexPadded (width value : Nat) : String :=
  let digits := Nat.toDigits 16 value
  String.ofList (List.replicate (width - digits.length) '0' ++ digits)

end Bytes

/-- Takes a value off the front of a byte string, or fails where the bytes run out. -/
abbrev Reader := StateT Bytes Option

namespace Reader

/-- The next byte. -/
def byte : Reader UInt8
  | [] => none
  | b :: rest => some (b, rest)

/-- The next two bytes as a word. -/
def word16 : Reader UInt16
  | high :: low :: rest => some (Bytes.word16 high low, rest)
  | _ => none

/-- The value that a reader takes off the front of `bytes`, whatever follows it. -/
def parse? {α : Type} (reader : Reader α) (bytes : Bytes) : Option α :=
  (reader bytes).map (·.1)

/-- A reader that takes nothing succeeds with its value. -/
@[simp] theorem pure_apply {α : Type} (a : α) (bytes : Bytes) :
    (pure a : Reader α) bytes = some (a, bytes) := rfl

/-- A reader behind another goes on where the first one stopped. -/
@[simp] theorem bind_apply {α β : Type} (reader : Reader α) (next : α → Reader β) (bytes : Bytes) :
    (reader >>= next) bytes = (reader bytes).bind fun taken => next taken.1 taken.2 := rfl

/-- A function on what a reader takes changes nothing in what it leaves. -/
@[simp] theorem map_apply {α β : Type} (f : α → β) (reader : Reader α) (bytes : Bytes) :
    (f <$> reader) bytes = (reader bytes).map fun taken => (f taken.1, taken.2) := by
  cases h : reader bytes <;> simp [Functor.map, StateT.map, h]

@[simp] theorem byte_cons (b : UInt8) (rest : Bytes) : byte (b :: rest) = some (b, rest) := rfl

@[simp] theorem word16_append (word : UInt16) (rest : Bytes) :
    word16 (Bytes.bytes16 word ++ rest) = some (word, rest) := by
  simp only [Bytes.bytes16, List.cons_append, List.nil_append, word16, Bytes.word16_bytes16]

end Reader

end NetStack
