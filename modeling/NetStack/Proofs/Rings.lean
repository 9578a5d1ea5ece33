import NetStack.Proofs.Slots

/-!
# What is read from a ring after a write

A write to a slot's descriptor or buffer is seen in that slot and in no other. A ring is pointed if
every descriptor points to the buffer of its own slot; it is placed so (`pointed_place`), and every
write that keeps a descriptor's address keeps it so. `Ring.held` is the frame of a slot: as many
bytes of its buffer as its descriptor says. A frame that is loaded and announced is held afterwards
(`held_fill_self`).
-/

namespace NetStack

namespace Ring

variable {δ : Type} {n size : Nat}

/-- A written descriptor is found in its slot and nowhere else. -/
theorem descriptor_setDescriptor (ring : Ring δ n size) (slot other : Fin n) (written : δ) :
    (ring.setDescriptor slot written).descriptor other =
      if other = slot then written else ring.descriptor other := by
  simp only [descriptor, setDescriptor, Fin.getElem_fin, Vector.getElem_set]
  by_cases h : other = slot
  · rw [if_pos h, if_pos (Fin.ext_iff.1 h).symm]
  · rw [if_neg h, if_neg fun heq => h (Fin.ext heq.symm)]

/-- Loaded data is found in its slot's buffer and nowhere else. -/
theorem buffer_load (ring : Ring δ n size) (slot other : Fin n) (data : Bytes) :
    (ring.load slot data).buffer other =
      if other = slot then (ring.buffer slot).load data else ring.buffer other := by
  simp only [buffer, load, setBuffer, Fin.getElem_fin, Vector.getElem_set]
  by_cases h : other = slot
  · rw [if_pos h, if_pos (Fin.ext_iff.1 h).symm]
  · rw [if_neg h, if_neg fun heq => h (Fin.ext heq.symm)]

@[simp] theorem descriptor_load (ring : Ring δ n size) (slot other : Fin n) (data : Bytes) :
    (ring.load slot data).descriptor other = ring.descriptor other := rfl

@[simp] theorem buffer_setDescriptor (ring : Ring δ n size) (slot other : Fin n) (written : δ) :
    (ring.setDescriptor slot written).buffer other = ring.buffer other := rfl

@[simp] theorem slotAt?_setDescriptor (ring : Ring δ n size) (slot : Fin n) (descriptor : δ)
    (address : UInt64) :
    (ring.setDescriptor slot descriptor).slotAt? address = ring.slotAt? address := rfl

/-- Every descriptor points to the buffer of its own slot. -/
def Pointed [Descriptor δ] (ring : Ring δ n size) : Prop :=
  ∀ slot : Fin n, ring.slotAt? (Descriptor.address (ring.descriptor slot)) = some slot

/-- A ring is placed pointed, wherever it lies, if the card sees consecutive addresses and the pool
is no larger than what the card can address. -/
theorem pointed_place [Descriptor δ]
    (harmed : ∀ address, Descriptor.address (Descriptor.armed address : δ) = address)
    (tableAddress poolAddress : Nat) (hsize : 0 < size) (hpool : n * size ≤ 2 ^ 64) :
    (place UInt64.ofNat tableAddress poolAddress : Ring δ n size).Pointed := by
  intro slot
  have hslot : slot.val * size < 2 ^ 64 :=
    Nat.lt_of_lt_of_le (Nat.mul_lt_mul_of_pos_right slot.isLt hsize) hpool
  -- the start of the pool falls out of the distance, even where the address wraps
  have hdistance : (UInt64.ofNat (poolAddress + slot.val * size) - UInt64.ofNat poolAddress).toNat =
      slot.val * size := by
    rw [UInt64.ofNat_add, UInt64.add_comm, UInt64.add_sub_cancel]
    exact UInt64.toNat_ofNat_of_lt' hslot
  simp only [slotAt?, descriptor, place, Fin.getElem_fin, Vector.getElem_ofFn, harmed, hdistance,
    Nat.mul_mod_left, if_true, Nat.mul_div_cancel _ hsize]
  exact Slot.ofNat?_val slot

/-- Loading data moves no descriptor. -/
theorem Pointed.load [Descriptor δ] {ring : Ring δ n size} (h : ring.Pointed) (slot : Fin n)
    (data : Bytes) : (ring.load slot data).Pointed := h

/-- A written descriptor that keeps its address points where it did. -/
theorem Pointed.setDescriptor [Descriptor δ] {ring : Ring δ n size} (h : ring.Pointed)
    {slot : Fin n} {written : δ}
    (haddress : Descriptor.address written = Descriptor.address (ring.descriptor slot)) :
    (ring.setDescriptor slot written).Pointed := by
  intro other
  rw [slotAt?_setDescriptor, descriptor_setDescriptor]
  by_cases hother : other = slot
  · rw [if_pos hother, haddress, hother]
    exact h slot
  · rw [if_neg hother]
    exact h other

/-- The frame of a slot: the start of its buffer, as long as its descriptor says. -/
def held (ring : Ring δ n size) (length : δ → UInt16) (slot : Fin n) : Bytes :=
  (ring.buffer slot).first (length (ring.descriptor slot)).toNat

/-- A written descriptor leaves the frames of other slots alone. -/
theorem held_setDescriptor_of_ne (ring : Ring δ n size) (length : δ → UInt16) {slot other : Fin n}
    (written : δ) (h : other ≠ slot) :
    (ring.setDescriptor slot written).held length other = ring.held length other := by
  unfold held
  rw [descriptor_setDescriptor, if_neg h, buffer_setDescriptor]

/-- A frame put into a slot leaves the frames of other slots alone. -/
theorem held_fill_of_ne (ring : Ring δ n size) (length : δ → UInt16) {slot other : Fin n}
    (data : Bytes) (written : δ) (h : other ≠ slot) :
    ((ring.load slot data).setDescriptor slot written).held length other =
      ring.held length other := by
  rw [held_setDescriptor_of_ne _ _ _ h]
  unfold held
  rw [buffer_load, if_neg h, descriptor_load]

/-- A frame put into a slot and announced with its length is held there, byte for byte. -/
theorem held_fill_self (ring : Ring δ n size) (length : δ → UInt16) (slot : Fin n) {data : Bytes}
    {written : δ} (hfits : data.length ≤ size)
    (hlength : (length written).toNat = data.length) :
    ((ring.load slot data).setDescriptor slot written).held length slot = data := by
  unfold held
  rw [descriptor_setDescriptor, if_pos rfl, hlength, buffer_setDescriptor, buffer_load,
    if_pos rfl, Buffer.first_load _ hfits]

end Ring

/-- The host's two rings are taken from any heap, wherever it puts them. -/
theorem exists_hostRings (onBus : Nat → UInt64) (heap : Heap) :
    ∃ (txTable txPool rxTable rxPool : Nat) (rest last : Heap),
      Ring.create onBus heap = .ok ((Ring.place onBus txTable txPool : TxRing), rest) ∧
      Ring.create onBus rest = .ok ((Ring.place onBus rxTable rxPool : RxRing), last) := by
  obtain ⟨txTable, txPool, rest, htx⟩ : ∃ (table pool : Nat) (rest : Heap),
      Ring.create onBus heap = .ok ((Ring.place onBus table pool : TxRing), rest) :=
    Ring.exists_create onBus heap (by decide) (by decide) (by decide)
  obtain ⟨rxTable, rxPool, last, hrx⟩ : ∃ (table pool : Nat) (last : Heap),
      Ring.create onBus rest = .ok ((Ring.place onBus table pool : RxRing), last) :=
    Ring.exists_create onBus rest (by decide) (by decide) (by decide)
  exact ⟨txTable, txPool, rxTable, rxPool, rest, last, htx, hrx⟩

/-- The address of an armed transmit descriptor. -/
theorem TxDescriptor.address_armed (address : UInt64) :
    Descriptor.address (Descriptor.armed address : TxDescriptor) = address := rfl

/-- The address of an armed receive descriptor. -/
theorem RxDescriptor.address_armed (address : UInt64) :
    Descriptor.address (Descriptor.armed address : RxDescriptor) = address := rfl

end NetStack
