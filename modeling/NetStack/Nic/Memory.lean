import NetStack.Bytes

/-!
# Memory shared with the card

Buffers of a fixed size, and the heap from which descriptor tables and buffer pools are taken. A
write into a buffer keeps its size, and an allocated block is aligned as asked.
-/

namespace NetStack

/-- A piece of memory of a fixed size. -/
structure Buffer (size : Nat) where
  bytes : Bytes
  length_bytes : bytes.length = size
  deriving DecidableEq

namespace Buffer

/-- A buffer of zeros. -/
def zero (size : Nat) : Buffer size :=
  ⟨List.replicate size 0, List.length_replicate⟩

/-- The buffer with `data` copied over its start; what does not fit is left out. -/
def load {size : Nat} (buffer : Buffer size) (data : Bytes) : Buffer size :=
  ⟨data.take size ++ buffer.bytes.drop data.length, by
    have h := buffer.length_bytes
    simp only [List.length_append, List.length_take, List.length_drop]
    omega⟩

/-- The buffer with `data` copied to `position`, or nothing if it reaches past the end. -/
def write? {size : Nat} (buffer : Buffer size) (position : Nat) (data : Bytes) :
    Option (Buffer size) :=
  if h : position + data.length ≤ size then
    some ⟨buffer.bytes.take position ++ data ++ buffer.bytes.drop (position + data.length), by
      have hl := buffer.length_bytes
      simp only [List.length_append, List.length_take, List.length_drop]
      omega⟩
  else
    none

/-- The first bytes of a buffer. -/
def first {size : Nat} (buffer : Buffer size) (count : Nat) : Bytes :=
  buffer.bytes.take count

/-- What was copied over the start of a buffer is read back from it. -/
theorem first_load {size : Nat} (buffer : Buffer size) {data : Bytes} (h : data.length ≤ size) :
    (buffer.load data).first data.length = data := by
  simp [first, load, List.take_of_length_le h]

end Buffer

/-- The heap: everything from an address on is free. -/
structure Heap where
  free : Nat
  deriving DecidableEq, Repr

namespace Heap

/-- The heap before anything was taken from it. -/
def start : Heap := ⟨0x80800000⟩

/-- Takes a block of `size` bytes whose address is a multiple of `align`. -/
def take (heap : Heap) (size align : Nat) : Nat × Heap :=
  let address := (heap.free + align - 1) / align * align
  (address, ⟨address + size⟩)

/-- The longest block that may be asked for: its end must lie within a signed 64-bit distance. -/
def longest : Nat := 0x7FFFFFFFFFFFFFFF

/-- Asks for a block. An empty block is refused, and so is one that is too long once it is rounded
up to its alignment. -/
def take? (heap : Heap) (size align : Nat) : Option (Nat × Heap) :=
  if size = 0 ∨ longest < size + (align - 1) then none else some (heap.take size align)

/-- A block that is neither empty nor too long is given. -/
theorem take?_of_le (heap : Heap) {size align : Nat} (hpos : 0 < size)
    (hle : size + (align - 1) ≤ longest) : heap.take? size align = some (heap.take size align) := by
  unfold take?
  rw [if_neg]
  omega

/-- An allocated block is aligned. -/
theorem take_address_mod (heap : Heap) (size align : Nat) :
    (heap.take size align).1 % align = 0 := by
  simp [take]

/-- An allocated block lies behind everything that was taken before. -/
theorem free_le_take_address (heap : Heap) (size : Nat) {align : Nat} (h : 0 < align) :
    heap.free ≤ (heap.take size align).1 := by
  have hdiv := Nat.div_add_mod (heap.free + align - 1) align
  have hmod := Nat.mod_lt (heap.free + align - 1) h
  simp only [take]
  rw [Nat.mul_comm]
  omega

end Heap

end NetStack
