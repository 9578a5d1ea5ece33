import NetStack.Kernel
import NetStack.Proofs.Builds
import NetStack.Proofs.Numerals
import NetStack.Proofs.Probing
import NetStack.Proofs.Rings

/-!
# The address of the card's registers

A document gives the address of the register window as a signed number, the generated file holds it
as a hexadecimal literal (`registerBase?_constants`), the driver accesses the registers at the
address that the literal stands for, and booting tells the bus the low 32 bits of this address
(`Kernel.boots`). A run refuses an address from 4 GiB on but no negative number, whose literal is
that of its two's complement. So an accepted number becomes an address that the bus can be told
exactly if it is not negative (`registerBase_arrives`).
-/

namespace NetStack

/-! ## Literals -/

namespace Config

/-- The number that a hexadecimal literal stands for. -/
def literalValue? (literal : String) : Option Nat :=
  match literal.toList with
  | '0' :: 'x' :: digits => Text.digits? 16 Text.hexDigit? 0 digits
  | _ => none

/-- A literal of the generated file stands for the address that it was made from. -/
theorem literalValue?_hexLiteral (value : Int) :
    literalValue? (hexLiteral value) = some (addressOf value) := by
  have hchars : (hexLiteral value).toList = '0' :: 'x' :: Nat.toDigits 16 (addressOf value) := by
    unfold hexLiteral Bytes.hexNat
    simp only [String.toList_append, String.toList_ofList]
    rfl
  unfold literalValue?
  rw [hchars]
  exact Text.digits?_toDigits _

/-- The address of the register window in a generated file. -/
def registerBase? (file : Output) : Option UInt64 := do
  let constants ← file
  let constant ← constants.find? (·.name = "E1000_MMIO_BASE")
  let value ← literalValue? constant.literal
  -- a larger literal does not fit the constant
  if value < UInt64.size then some (UInt64.ofNat value) else none

/-- An address has 64 bits. -/
theorem addressOf_lt (value : Int) : addressOf value < UInt64.size := by
  unfold addressOf UInt64.size
  omega

/-- The constants of some settings hold the address that was set. -/
theorem registerBase?_constants (settings : Settings) :
    registerBase? (some settings.constants) =
      some (UInt64.ofNat (addressOf settings.registerBase)) := by
  have hfind : settings.constants.find? (·.name = "E1000_MMIO_BASE") =
      some ⟨"E1000_MMIO_BASE", hexLiteral settings.registerBase⟩ := by
    simp [Settings.constants]
  unfold registerBase?
  simp only [Option.bind_eq_bind, Option.bind_some, hfind, literalValue?_hexLiteral, addressOf_lt,
    if_true]

/-! ## Numbers of a document -/

/-- Whether all numbers of a document have 64 bits, as the format prescribes. -/
def Document.Representable (document : Document) : Prop :=
  ∀ part ∈ document, ∀ entry ∈ part.2, ∀ n, entry.2 = .integer n → -2 ^ 63 ≤ n ∧ n < 2 ^ 63

/-- What is found in a document stands in it. -/
theorem Document.exists_of_find? {document : Document} {sectionName key : String} {value : Value}
    (h : document.find? sectionName key = some value) :
    ∃ part ∈ document, (key, value) ∈ part.2 := by
  unfold find? at h
  obtain ⟨entries, hsection, hentry⟩ := Option.bind_eq_some_iff.1 h
  obtain ⟨_, _, hdocument, -⟩ := List.lookup_eq_some_iff.1 hsection
  obtain ⟨_, _, hentries, -⟩ := List.lookup_eq_some_iff.1 hentry
  refine ⟨(sectionName, entries), ?_, ?_⟩
  · rw [hdocument]
    exact List.mem_append_right _ List.mem_cons_self
  · rw [hentries]
    exact List.mem_append_right _ List.mem_cons_self

/-- A number under a key has 64 bits if its default has. -/
theorem Document.Representable.integer {document : Document} (h : document.Representable)
    (sectionName key : String) {default : Int} (hdefault : -2 ^ 63 ≤ default ∧ default < 2 ^ 63) :
    -2 ^ 63 ≤ document.integer sectionName key default ∧
      document.integer sectionName key default < 2 ^ 63 := by
  unfold Document.integer
  split
  · next n hfound =>
    obtain ⟨part, hpart, hentry⟩ := exists_of_find? hfound
    exact h part hpart _ hentry n rfl
  · exact hdefault

/-- An accepted number of 64 bits becomes an address below 4 GiB exactly if it is not negative. -/
theorem addressOf_lt_iff {value : Int} (hlow : -2 ^ 63 ≤ value) (hhigh : value ≤ 2 ^ 32 - 1) :
    addressOf value < 2 ^ 32 ↔ 0 ≤ value := by
  unfold addressOf UInt64.size
  omega

end Config

/-! ## Booting -/

/-- Writing registers does not move their window. -/
theorem Adapter.base_writeAll (window : Window) (tx : TxRing) (writes : List (Reg × UInt32)) :
    (writeAll window tx writes).value.1.base = window.base := by
  induction writes generalizing window tx with
  | nil => rfl
  | cons write writes ih =>
    simp only [writeAll, Logged.value_bind]
    exact ih _ _

/-- A card on a window can be set up, and its driver accesses the registers where they are. -/
theorem Adapter.exists_init_window (window : Window) (mac : Mac) (heap : Heap) :
    ∃ (adapter : Adapter Window) (rest : Heap),
      (init window mac heap).value = .ok (adapter, rest) ∧ adapter.bus.base = window.base := by
  obtain ⟨_, _, _, _, rest, last, htx, hrx⟩ :=
    exists_hostRings (RegisterBus.busAddress window) heap
  simp only [init, htx, hrx, start, Logged.value_bind, Logged.value_pure]
  exact ⟨_, _, rfl, base_writeAll window _ _⟩

/-- A mapped slot shows its address as the first base address. -/
theorem Pci.Mapped.firstBar {before after : Pci.Bus} {slot : Fin Pci.slotCount} {address : UInt32}
    (h : Pci.Mapped before after slot address) : (after.function slot).word 4 = address := by
  rw [h slot 4, if_neg fun hcommand => absurd hcommand.2 (by decide), if_pos ⟨rfl, rfl⟩]

namespace Kernel

/-- The driver of an adopted card, or the one in use, works on the registers as they are now. -/
theorem window_adopt (kernel : Kernel) (adapter : Adapter Window) :
    (kernel.adopt adapter).window = adapter.bus := by
  obtain ⟨pci, registers, heap, nicSet, ⟨_ | stack⟩, yieldHook⟩ := kernel <;> rfl

/-- Adopting a card does not touch the bus. -/
theorem pci_adopt (kernel : Kernel) (adapter : Adapter Window) :
    (kernel.adopt adapter).pci = kernel.pci := by
  obtain ⟨pci, registers, heap, nicSet, ⟨_ | stack⟩, yieldHook⟩ := kernel <;> rfl

/-- What booting comes to where the card is found in a slot. -/
structure Boots (kernel : Kernel) (slot : Fin Pci.slotCount) : Prop where
  succeeds : kernel.boot.value.1 = .ok ()
  /-- The slot is mapped to the low 32 bits of the address that the driver uses. -/
  mapped : Pci.Mapped kernel.pci kernel.boot.value.2.pci slot kernel.window.base.toUInt32
  /-- The driver goes on using the same address. -/
  base : kernel.boot.value.2.window.base = kernel.window.base

/-- A kernel boots with the first card on its bus. -/
theorem boots {kernel : Kernel} {slot : Fin Pci.slotCount}
    (hslot : IsLeast {slot | (kernel.pci.function slot).word 0 = Pci.Function.cardWord} slot) :
    kernel.Boots slot := by
  have hprobes := Pci.probes kernel.pci kernel.window.base.toUInt32
  have hfound := (hprobes.answers.found slot).2 hslot
  have hmapped := hprobes.mapped slot hfound
  obtain ⟨adapter, rest, hinit, hbase⟩ :=
    Adapter.exists_init_window kernel.window Host.mac kernel.heap
  have hboot : kernel.boot.value = (.ok (), adopt
      { kernel with
        pci := (Pci.probe kernel.pci kernel.window.base.toUInt32).value.2
        heap := rest } adapter) := by
    unfold boot
    rw [Logged.value_bind]
    generalize (Pci.probe kernel.pci kernel.window.base.toUInt32).value = outcome at hfound ⊢
    obtain ⟨found, pci⟩ := outcome
    obtain rfl : found = .ok slot := hfound
    have hwindow : ({ kernel with pci } : Kernel).window = kernel.window := rfl
    simp only [hwindow, hinit, Logged.value_bind]
    rfl
  constructor
  · rw [hboot]
  · rw [hboot, pci_adopt]
    exact hmapped
  · rw [hboot, window_adopt]
    exact hbase

/-- Whatever address a kernel uses for the registers, its bus may hold a card. -/
theorem exists_card (base : UInt64) : ∃ (kernel : Kernel) (slot : Fin Pci.slotCount),
    kernel.window.base = base ∧
      IsLeast {slot | (kernel.pci.function slot).word 0 = Pci.Function.cardWord} slot := by
  let full : Pci.Bus := Vector.replicate _ (Vector.replicate _ Pci.Function.cardWord)
  have hfull (slot : Fin Pci.slotCount) : (full.function slot).word 0 = Pci.Function.cardWord := by
    have hshown : full.function slot = Vector.replicate _ Pci.Function.cardWord :=
      Vector.getElem_replicate slot.isLt
    rw [hshown]
    exact Vector.getElem_replicate _
  exact ⟨{ start full with registers := Window.zero Window.cardWords base }, 0, rfl, hfull 0,
    fun slot _ => Fin.zero_le slot⟩

end Kernel

/-! ## From the document to the bus -/

namespace Config

/-- The number that a document asks for has 64 bits. -/
theorem registerBase_range {document : Option Document}
    (hrepresentable : (document.getD []).Representable) :
    -2 ^ 63 ≤ (requested document).registerBase ∧ (requested document).registerBase < 2 ^ 63 :=
  hrepresentable.integer _ _ (by decide)

/-- An accepted number lies below 4 GiB. -/
theorem registerBase_le {document : Option Document} (h : Acceptable document) :
    (requested document).registerBase ≤ 2 ^ 32 - 1 :=
  h ⟨(requested document).registerBase ≤ 2 ^ 32 - 1, .badRegisterBase⟩ (by
    simp [Request.requirements])

/-- The file of a document holds the address that its number stands for. -/
theorem FileOf.registerBase? {document : Option Document} {file : Output}
    (h : FileOf document file) : Config.registerBase? file =
      some (UInt64.ofNat (addressOf (requested document).registerBase)) := by
  obtain ⟨settings, hyields, rfl⟩ := h
  rw [registerBase?_constants, congrArg Settings.registerBase hyields.eq]

/-- Addresses below 4 GiB are those that their low 32 bits tell. -/
theorem toUInt64_toUInt32_eq_iff (base : UInt64) :
    base.toUInt32.toUInt64 = base ↔ base.toNat < 2 ^ 32 := by
  rw [← UInt64.toNat_inj, UInt32.toNat_toUInt64, UInt64.toNat_toUInt32]
  omega

/-- What becomes of a configured number that turned into an address. -/
structure Arrives (number : Int) (base : UInt64) : Prop where
  /-- The address lies below 4 GiB exactly if the number is not negative. -/
  below : base.toNat < 2 ^ 32 ↔ 0 ≤ number
  /-- Every kernel that uses the address boots where there is a card, and its driver accesses the
  registers there. -/
  driver : ∀ (kernel : Kernel) (slot : Fin Pci.slotCount), kernel.window.base = base →
    IsLeast {slot | (kernel.pci.function slot).word 0 = Pci.Function.cardWord} slot →
      kernel.boot.value.1 = .ok () ∧ kernel.boot.value.2.window.base = base
  /-- The first base address of the card is the same address exactly if the number is not
  negative. -/
  card : ∀ (kernel : Kernel) (slot : Fin Pci.slotCount), kernel.window.base = base →
    IsLeast {slot | (kernel.pci.function slot).word 0 = Pci.Function.cardWord} slot →
      (((kernel.boot.value.2.pci.function slot).word 4).toUInt64 = base ↔ 0 ≤ number)

/-- An accepted document leaves a file with an address, which arrives at the driver, and at the card
unless it comes from a negative number. -/
theorem registerBase_arrives (document : Option Document) (file : Output)
    (hrepresentable : (document.getD []).Representable)
    (haccepted : (run document file).1.fault = none) :
    ∃ base, registerBase? (run document file).2 = some base ∧
      Arrives (requested document).registerBase base := by
  have hacceptable := (fault_run_eq_none_iff document file).1 haccepted
  obtain ⟨hlow, -⟩ := registerBase_range hrepresentable
  have hbelow := addressOf_lt_iff hlow (registerBase_le hacceptable)
  rw [← UInt64.toNat_ofNat_of_lt' (addressOf_lt _)] at hbelow
  refine ⟨_, (fileOf_run hacceptable file).registerBase?, ?_⟩
  constructor
  · exact hbelow
  · intro kernel slot hbase hslot
    have hboots := Kernel.boots hslot
    exact ⟨hboots.succeeds, hboots.base.trans hbase⟩
  · intro kernel slot hbase hslot
    have hboots := Kernel.boots hslot
    rw [← hbelow, ← toUInt64_toUInt32_eq_iff, hboots.mapped.firstBar, hbase]

/-- A document that sets nothing but the address of the registers. -/
def Document.ofRegisterBase (number : Int) : Document :=
  [("platform", [("e1000_mmio_base", .integer number)])]

/-- Its only number has 64 bits if it is written with 64 bits. -/
theorem Document.representable_ofRegisterBase {number : Int}
    (h : -2 ^ 63 ≤ number ∧ number < 2 ^ 63) : (ofRegisterBase number).Representable := by
  intro part hpart entry hentry n hvalue
  obtain rfl := List.mem_singleton.1 hpart
  obtain rfl := List.mem_singleton.1 hentry
  obtain rfl := Value.integer.inj hvalue
  exact h

/-- The registers may be configured to lie at another address than the default one. -/
theorem exists_arrival :
    (run (some (.ofRegisterBase 0x50000000)) none).1.fault = none ∧
      ∃ base, registerBase? (run (some (.ofRegisterBase 0x50000000)) none).2 = some base ∧
        Arrives 0x50000000 base := by
  have haccepted : (run (some (.ofRegisterBase 0x50000000)) none).1.fault = none := by decide
  have hrepresentable : (Document.ofRegisterBase 0x50000000).Representable :=
    Document.representable_ofRegisterBase (by decide)
  exact ⟨haccepted, registerBase_arrives _ none hrepresentable haccepted⟩

/-- A document that puts the registers right below address zero is accepted, and the card is mapped
to another address than its driver uses. -/
theorem exists_astray :
    (Document.ofRegisterBase (-1)).Representable ∧
      (run (some (.ofRegisterBase (-1))) none).1.fault = none ∧
      ∃ base, registerBase? (run (some (.ofRegisterBase (-1))) none).2 = some base ∧
        ¬base.toNat < 2 ^ 32 ∧
        ∃ (kernel : Kernel) (slot : Fin Pci.slotCount), kernel.window.base = base ∧
          kernel.boot.value.1 = .ok () ∧
          ((kernel.boot.value.2.pci.function slot).word 4).toUInt64 ≠
            kernel.boot.value.2.window.base := by
  have haccepted : (run (some (.ofRegisterBase (-1))) none).1.fault = none := by decide
  have hfile := (fileOf_run ((fault_run_eq_none_iff _ _).1 haccepted) none).registerBase?
  have hfar : ¬(0xFFFFFFFFFFFFFFFF : UInt64).toNat < 2 ^ 32 := by decide
  obtain ⟨kernel, slot, hbase, hslot⟩ := Kernel.exists_card 0xFFFFFFFFFFFFFFFF
  have hboots := Kernel.boots hslot
  refine ⟨Document.representable_ofRegisterBase (by decide), haccepted, 0xFFFFFFFFFFFFFFFF, hfile,
    hfar, kernel, slot, hbase, hboots.succeeds, ?_⟩
  rw [hboots.mapped.firstBar, hboots.base, hbase, Ne, toUInt64_toUInt32_eq_iff]
  exact hfar

end Config

end NetStack
