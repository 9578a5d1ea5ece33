import NetStack.Log
import NetStack.Nic.Error

/-!
# The PCI bus

Bus 0 has 32 slots. Each slot shows the 32-bit configuration registers of a device; an empty slot
reads as all ones. The card is looked for slot by slot, its decoding and bus mastering are switched
on, and its register window is mapped by its first base address register.
-/

namespace NetStack.Pci

/-- The number of slots on a bus. -/
abbrev slotCount : Nat := 32

/-- The number of 32-bit words that the window shows of a slot: 4 KiB for each of eight functions.
Only registers of the first function are ever accessed. -/
abbrev registerCount : Nat := 8192

/-- The number of base address registers of a device. -/
def barCount : Nat := 6

/-- The vendor number that an empty slot reads as. -/
def noVendor : UInt16 := 0xFFFF

/-- The vendor number of the card. -/
def cardVendor : UInt16 := 0x8086

/-- The device number of the card. -/
def cardDevice : UInt16 := 0x100E

/-- The command that opens I/O space and memory space and makes the device a bus master. -/
def enableCommand : UInt16 := 7

/-- The configuration registers that a slot shows. -/
abbrev Function := Vector UInt32 registerCount

/-- The configuration window of a bus. -/
abbrev Bus := Vector Function slotCount

/-- What is written to a place of a vector is found there and nowhere else. -/
theorem get_set {α : Type} {n : Nat} (xs : Vector α n) (i j : Fin n) (x : α) :
    (xs.set i.val x i.isLt).get j = if j = i then x else xs.get j := by
  refine (Vector.getElem_set i.isLt j.isLt).trans ?_
  by_cases h : j = i
  · rw [if_pos h, if_pos (Fin.ext_iff.1 h).symm]
  · rw [if_neg h, if_neg fun heq => h (Fin.ext heq.symm)]
    rfl

namespace Bus

/-- What a slot shows. -/
def function (bus : Bus) (slot : Fin slotCount) : Function :=
  bus.get slot

/-- The bus with another device in a slot. -/
def put (bus : Bus) (slot : Fin slotCount) (f : Function) : Bus :=
  bus.set slot.val f slot.isLt

/-- Only the slot of the other device shows something else. -/
theorem function_put (bus : Bus) (slot other : Fin slotCount) (f : Function) :
    (bus.put slot f).function other = if other = slot then f else bus.function other :=
  get_set bus slot other f

end Bus

namespace Function

/-- A word of a device. -/
def word (f : Function) (i : Fin registerCount) : UInt32 :=
  f.get i

/-- The device with a word written. -/
def write (f : Function) (i : Fin registerCount) (value : UInt32) : Function :=
  f.set i.val value i.isLt

/-- Only the written word changes. -/
theorem word_write (f : Function) (i j : Fin registerCount) (value : UInt32) :
    (f.write i value).word j = if j = i then value else f.word j :=
  get_set f i j value

/-- Devices that agree in every word are equal. -/
theorem ext_word {f g : Function} (h : ∀ i, f.word i = g.word i) : f = g :=
  Vector.ext fun i hi => h ⟨i, hi⟩

/-- The register that holds the byte at a given offset. -/
def index (offset : UInt8) : Fin registerCount :=
  ⟨offset.toNat / 4, Nat.lt_of_le_of_lt (Nat.div_le_self _ _)
    (Nat.lt_of_lt_of_le offset.toNat_lt (by decide))⟩

/-- The register of a base address. -/
def barIndex (bar : Nat) : Fin registerCount :=
  Fin.ofNat registerCount (4 + bar)

/-- The register of the command. -/
def commandIndex : Fin registerCount := 1

/-- What an empty slot reads as. -/
def absent : Function := Vector.replicate registerCount 0xFFFFFFFF

/-- A device with the given numbers, command register and base addresses; its other registers read
as all ones. -/
def present (vendor device : UInt16) (command : UInt32) (bars : Vector UInt32 6) : Function :=
  let head := absent.write 0 (UInt32.ofNat (device.toNat * 65536 + vendor.toNat))
  (List.finRange 6).foldl (fun f (bar : Fin 6) => f.write (barIndex bar) (bars.get bar))
    (head.write commandIndex command)

/-- The vendor number. -/
def vendor (f : Function) : UInt16 :=
  UInt16.ofNat ((f.word 0).toNat % 65536)

/-- The device number. -/
def device (f : Function) : UInt16 :=
  UInt16.ofNat ((f.word 0).toNat / 65536)

/-- The command: the low half of its register. -/
def command (f : Function) : UInt16 :=
  UInt16.ofNat ((f.word commandIndex).toNat % 65536)

/-- The device with a command written, which clears the status in the register's high half. -/
def setCommand (f : Function) (command : UInt16) : Function :=
  f.write commandIndex (UInt32.ofNat command.toNat)

/-- A base address. -/
def bar (f : Function) (i : Nat) : UInt32 :=
  f.word (barIndex i)

/-- The device with a base address written. -/
def setBar (f : Function) (i : Nat) (address : UInt32) : Function :=
  f.write (barIndex i) address

/-- Finds the size mask of a base address: all ones are written, the mask is read, and the old
address is put back. -/
def probeBar (f : Function) (i : Nat) : UInt32 × Function :=
  let probed := f.setBar i 0xFFFFFFFF
  (probed.bar i, probed.setBar i (f.bar i))

end Function

/-- Looks through the given slots for the first device with the given numbers. -/
def scan (bus : Bus) (vendor device : UInt16) :
    List (Fin slotCount) → Logged (Option (Fin slotCount))
  | [] => pure none
  | slot :: rest => do
    let found := bus.function slot
    if found.vendor = noVendor then
      scan bus vendor device rest
    else
      let vendorText := Bytes.hexPadded 4 found.vendor.toNat
      let deviceText := Bytes.hexPadded 4 found.device.toNat
      Logged.note .debug
        s!"pci: slot {slot.val} vendor=0x{vendorText} device=0x{deviceText}"
      if found.vendor = vendor ∧ found.device = device then
        pure (some slot)
      else
        scan bus vendor device rest

/-- The first slot of the bus with the given device. -/
def find (bus : Bus) (vendor device : UInt16) : Logged (Except SetupError (Fin slotCount)) := do
  match ← scan bus vendor device (List.finRange slotCount) with
  | some slot => pure (.ok slot)
  | none =>
    let vendorText := Bytes.hexPadded 4 vendor.toNat
    let deviceText := Bytes.hexPadded 4 device.toNat
    Logged.note .warn s!"pci: no device {vendorText}:{deviceText} on bus 0"
    pure (.error .deviceNotFound)

/-- Probes the base addresses from `first` on, `count` of them. -/
def probeBars (f : Function) (first : Nat) : Nat → Logged Function
  | 0 => pure f
  | count + 1 => do
    let (mask, f) := f.probeBar first
    let maskText := Bytes.hexPadded 8 mask.toNat
    Logged.note .debug s!"pci: BAR{first} mask=0x{maskText}"
    probeBars f (first + 1) count

/-- Switches on the card in a slot and maps its registers to `address`. A slot that holds no card is
left alone. -/
def enable (bus : Bus) (slot : Fin slotCount) (address : UInt32) :
    Logged (Except SetupError Unit × Bus) := do
  let f := bus.function slot
  if f.vendor = noVendor then
    pure (.error .deviceNotFound, bus)
  else if f.vendor ≠ cardVendor ∨ f.device ≠ cardDevice then
    pure (.error (.unexpectedDevice f.vendor f.device), bus)
  else
    -- probing puts every base address back; the first is written only now
    let f ← probeBars (f.setCommand enableCommand) 0 barCount
    let addressText := Bytes.hexNat address.toNat
    Logged.note .info s!"pci: e1000 at slot {slot.val} mapped to 0x{addressText}"
    pure (.ok (), bus.put slot (f.setBar 0 address))

/-- Finds the card on the bus and switches it on. -/
def probe (bus : Bus) (address : UInt32) : Logged (Except SetupError (Fin slotCount) × Bus) := do
  match ← find bus cardVendor cardDevice with
  | .error error => pure (.error error, bus)
  | .ok slot =>
    let (outcome, bus) ← enable bus slot address
    pure (outcome.map fun _ => slot, bus)

end NetStack.Pci
