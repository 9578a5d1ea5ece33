import NetStack.Host
import NetStack.Nic.Descriptor
import NetStack.Nic.Error
import NetStack.Nic.Memory
import NetStack.PowerOfTwo

/-!
# Descriptor rings

A ring is a table of descriptors and a pool of as many buffers, taken from the heap once and never
moved. Slot `i` owns buffer `i`: its descriptor starts out pointing to that buffer. A slot number is
a `Fin`, so no operation on a ring can leave it.
-/

namespace NetStack

/-! Slot numbers of a ring with `n` slots. -/

namespace Slot

/-- The slot of an index, if the ring has it. -/
def ofNat? (n index : Nat) : Option (Fin n) :=
  if h : index < n then some ⟨index, h⟩ else none

/-- The slot of a register value, counted around the ring. -/
def wrap {n : Nat} (value : UInt32) (hn : 0 < n := by omega) : Fin n :=
  ⟨value.toNat % n, Nat.mod_lt _ hn⟩

/-- The last slot. -/
def last (n : Nat) (hn : 0 < n := by omega) : Fin n :=
  ⟨n - 1, Nat.sub_one_lt_of_lt hn⟩

/-- The slot behind a slot, counted around the ring. -/
def next {n : Nat} (slot : Fin n) : Fin n :=
  ⟨(slot.val + 1) % n, Nat.mod_lt _ (Nat.lt_of_le_of_lt (Nat.zero_le _) slot.isLt)⟩

/-- The slot number as a register value. -/
def toWord {n : Nat} (slot : Fin n) : UInt32 :=
  UInt32.ofNat slot.val

end Slot

/-- The alignment of a descriptor table, and the unit of its length, in bytes. -/
def tableAlign : Nat := 128

/-- The alignment of a buffer pool in bytes. -/
def poolAlign : Nat := 16

/-- A table of `n` descriptors and a pool of `n` buffers of `size` bytes. -/
structure Ring (δ : Type) (n size : Nat) where
  /-- Where the table lies in the host's memory. -/
  tableAddress : Nat
  /-- Where the pool lies in the host's memory. -/
  poolAddress : Nat
  /-- Where the card sees the table. -/
  tableBus : UInt64
  /-- Where the card sees the pool. -/
  poolBus : UInt64
  table : Vector δ n
  pool : Vector (Buffer size) n

namespace Ring

variable {δ : Type} {n size : Nat}

/-- Whether the card can work with a ring: a power of two of descriptors, a table that is a multiple
of 128 bytes, and buffers that are not empty. -/
def validGeometry (n size : Nat) : Bool :=
  isPowerOfTwo n && n * descriptorSize % tableAlign == 0 && size != 0

/-- The length of the descriptor table in bytes, as the card is told it. -/
def tableBytes (n : Nat) : UInt32 :=
  UInt32.ofNat (n * descriptorSize)

/-- A ring whose table and pool lie at the given addresses, with every descriptor pointing to its
own buffer as the card sees it through `onBus`. -/
def place [Descriptor δ] (onBus : Nat → UInt64) (tableAddress poolAddress : Nat) :
    Ring δ n size where
  tableAddress := tableAddress
  poolAddress := poolAddress
  tableBus := onBus tableAddress
  poolBus := onBus poolAddress
  table := Vector.ofFn fun i => Descriptor.armed (onBus (poolAddress + i.val * size))
  pool := Vector.replicate n (Buffer.zero size)

/-- Takes a ring from the heap, first its table and then its pool. -/
def create [Descriptor δ] (onBus : Nat → UInt64) (heap : Heap) :
    Except SetupError (Ring δ n size × Heap) :=
  if validGeometry n size then
    match heap.take? (n * descriptorSize) tableAlign with
    | none => .error .badRingGeometry
    | some (tableAddress, heap) =>
      match heap.take? (n * size) poolAlign with
      | none => .error .badRingGeometry
      | some (poolAddress, heap) => .ok (place onBus tableAddress poolAddress, heap)
  else
    .error .badRingGeometry

/-- A ring of valid geometry whose table and pool are not too long is placed somewhere. -/
theorem exists_create [Descriptor δ] (onBus : Nat → UInt64) (heap : Heap)
    (hvalid : validGeometry n size = true)
    (htable : n * descriptorSize + (tableAlign - 1) ≤ Heap.longest)
    (hpool : n * size + (poolAlign - 1) ≤ Heap.longest) :
    ∃ (tableAddress poolAddress : Nat) (rest : Heap),
      (create onBus heap : Except SetupError (Ring δ n size × Heap)) =
        .ok (place onBus tableAddress poolAddress, rest) := by
  have hsizes : 0 < n ∧ 0 < size := by
    simp only [validGeometry, isPowerOfTwo, Bool.and_eq_true, beq_iff_eq, bne_iff_ne] at hvalid
    obtain ⟨⟨hpower, -⟩, hsize⟩ := hvalid
    rw [hpower, Nat.one_shiftLeft]
    exact ⟨Nat.two_pow_pos _, Nat.pos_of_ne_zero hsize⟩
  have htableTaken := Heap.take?_of_le heap (Nat.mul_pos hsizes.1 (by decide)) htable
  have hpoolTaken := Heap.take?_of_le (heap.take (n * descriptorSize) tableAlign).2
    (Nat.mul_pos hsizes.1 hsizes.2) hpool
  unfold create
  rw [if_pos hvalid, htableTaken]
  simp only [hpoolTaken]
  exact ⟨_, _, _, rfl⟩

/-- The address of a slot's buffer in the host's memory. -/
def bufferAddress (ring : Ring δ n size) (slot : Fin n) : Nat :=
  ring.poolAddress + slot.val * size

/-- Whether the table starts at a multiple of 128 bytes. -/
def tableAligned (ring : Ring δ n size) : Bool :=
  ring.tableAddress % tableAlign == 0

/-- The slot whose buffer starts at an address as the card sees it. -/
def slotAt? (ring : Ring δ n size) (address : UInt64) : Option (Fin n) :=
  -- buffer `i` starts `i * size` bytes behind the start of the pool
  let distance := (address - ring.poolBus).toNat
  if distance % size = 0 then Slot.ofNat? n (distance / size) else none

/-- The descriptor of a slot. -/
def descriptor (ring : Ring δ n size) (slot : Fin n) : δ :=
  ring.table[slot]

/-- What is read from the table is the slot's descriptor. -/
theorem getElem_table (ring : Ring δ n size) (slot : Fin n) :
    ring.table[slot] = ring.descriptor slot := rfl

/-- The buffer of a slot. -/
def buffer (ring : Ring δ n size) (slot : Fin n) : Buffer size :=
  ring.pool[slot]

/-- The ring with a descriptor written. -/
def setDescriptor (ring : Ring δ n size) (slot : Fin n) (descriptor : δ) : Ring δ n size :=
  { ring with table := ring.table.set slot descriptor }

/-- The ring with a slot's buffer replaced. -/
def setBuffer (ring : Ring δ n size) (slot : Fin n) (buffer : Buffer size) : Ring δ n size :=
  { ring with pool := ring.pool.set slot buffer }

/-- The ring with data copied over the start of a slot's buffer. -/
def load (ring : Ring δ n size) (slot : Fin n) (data : Bytes) : Ring δ n size :=
  ring.setBuffer slot ((ring.buffer slot).load data)

end Ring

/-- The host's transmit ring. -/
abbrev TxRing := Ring TxDescriptor Host.txRingSize Host.txBufferSize

/-- The host's receive ring. -/
abbrev RxRing := Ring RxDescriptor Host.rxRingSize Host.rxBufferSize

/-- The number of receive descriptors that hold a frame. -/
def RxRing.ready (ring : RxRing) : Nat :=
  ring.table.countP RxDescriptor.done

/-- The receive ring with a slot given back to the card. -/
def RxRing.rearm (ring : RxRing) (slot : Fin Host.rxRingSize) : RxRing :=
  ring.setDescriptor slot (RxDescriptor.armed (ring.descriptor slot).address)

/-- Giving back a slot that holds a frame leaves one frame less in the ring. -/
theorem RxRing.ready_rearm_lt (ring : RxRing) (slot : Fin Host.rxRingSize)
    (h : (ring.descriptor slot).done = true) : (ring.rearm slot).ready < ring.ready := by
  -- the slot is counted before, and no longer afterwards
  have hpos : 0 < ring.table.countP RxDescriptor.done :=
    Vector.countP_pos_iff.2 ⟨ring.descriptor slot, Vector.getElem_mem _, h⟩
  simp only [ready, rearm, Ring.setDescriptor]
  rw [Vector.countP_set]
  simp only [RxDescriptor.done_armed, Bool.false_eq_true, if_false, Nat.add_zero]
  have hdone : ring.table[slot.val].done = true := h
  rw [if_pos hdone]
  omega

end NetStack
