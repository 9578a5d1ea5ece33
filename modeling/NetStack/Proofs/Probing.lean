import Mathlib.Data.Fin.Tuple.Basic
import Mathlib.Order.Bounds.Basic
import Mathlib.Order.Fin.Basic
import NetStack.Pci

/-!
# What probing the bus does to it

A device is known by the first word of its slot: the device number over the vendor number. The scan
answers the first slot whose word is the one that is looked for (`find_value`). Probing a base
address puts back what it found there (`probeBar_eq`), so switching on a card changes its command
and its first base address and nothing else (`mapped_put`). `probing` says for every bus which slot
is found, when there is none, and what the window holds afterwards, word by word.
-/

namespace NetStack.Pci

namespace Function

/-- The first word is the device number over the vendor number. -/
theorem toNat_first (f : Function) :
    (f.word 0).toNat = f.device.toNat * 65536 + f.vendor.toNat := by
  have hword := (f.word 0).toNat_lt
  simp only [device, vendor, UInt16.toNat_ofNat']
  omega

/-- The two numbers of a device are known from its first word. -/
theorem first_eq_iff (f : Function) (vendor device : UInt16) :
    (f.word 0).toNat = device.toNat * 65536 + vendor.toNat ↔
      f.vendor = vendor ∧ f.device = device := by
  have hfound := f.vendor.toNat_lt
  have hvendor := vendor.toNat_lt
  rw [toNat_first, ← UInt16.toNat_inj, ← UInt16.toNat_inj]
  omega

/-- The first word of the card. -/
def cardWord : UInt32 := 0x100E8086

/-- A slot holds the card exactly if its first word is the card's. -/
theorem first_eq_cardWord_iff (f : Function) :
    f.word 0 = cardWord ↔ f.vendor = cardVendor ∧ f.device = cardDevice := by
  rw [← first_eq_iff, ← UInt32.toNat_inj]
  rfl

/-- A probed base address reads as all ones, and is put back. -/
theorem probeBar_eq (f : Function) (i : Nat) : f.probeBar i = (0xFFFFFFFF, f) := by
  have hread : (f.setBar i 0xFFFFFFFF).bar i = 0xFFFFFFFF := by
    unfold bar setBar
    rw [word_write, if_pos rfl]
  have hback : (f.setBar i 0xFFFFFFFF).setBar i (f.bar i) = f := by
    unfold setBar bar
    refine ext_word fun j => ?_
    rw [word_write, word_write]
    split
    · next h => rw [h]
    · rfl
  exact Prod.ext hread hback

end Function

/-- Probing base addresses leaves a device as it was. -/
theorem value_probeBars (f : Function) (first count : Nat) :
    (probeBars f first count).value = f := by
  induction count generalizing first with
  | zero => rfl
  | succ count ih =>
    simp only [probeBars, Function.probeBar_eq, Logged.value_bind]
    exact ih _

/-! ## Finding a device -/

/-- Whether a slot holds the device with the given numbers. -/
def holds (bus : Bus) (vendor device : UInt16) (slot : Fin slotCount) : Bool :=
  (bus.function slot).vendor = vendor ∧ (bus.function slot).device = device

/-- A scan answers the first slot in its list with the device that is looked for. An empty slot is
passed over, which makes no difference unless an empty slot is looked for. -/
theorem value_scan (bus : Bus) {vendor : UInt16} (hvendor : vendor ≠ noVendor) (device : UInt16)
    (slots : List (Fin slotCount)) :
    (scan bus vendor device slots).value = slots.find? (holds bus vendor device) := by
  induction slots with
  | nil => rfl
  | cons slot rest ih =>
    unfold scan
    rw [List.find?_cons]
    by_cases hempty : (bus.function slot).vendor = noVendor
    · have hother : holds bus vendor device slot = false := by
        simp only [holds, decide_eq_false_iff_not]
        exact fun h => hvendor (h.1.symm.trans hempty)
      simp only [hempty, if_true, hother]
      exact ih
    · by_cases hmatch : (bus.function slot).vendor = vendor ∧ (bus.function slot).device = device
      · have hheld : holds bus vendor device slot = true := decide_eq_true hmatch
        simp only [hempty, hheld, if_false, Logged.value_bind]
        rw [if_pos hmatch, Logged.value_pure]
      · simp only [holds, hempty, hmatch, if_false, Logged.value_bind, decide_false]
        exact ih

/-- The first slot of a bus for which a test holds is the least one. -/
theorem find?_slots_eq_some_iff (p : Fin slotCount → Bool) (slot : Fin slotCount) :
    (List.finRange slotCount).find? p = some slot ↔ IsLeast {slot | p slot = true} slot := by
  rw [← Fin.find?_eq_find?_finRange, Fin.find?_eq_some_iff]
  refine and_congr_right fun _ => ⟨fun h other hother => ?_, fun h other hother => ?_⟩
  · refine not_lt.1 fun hlt => ?_
    rw [Set.mem_ofPred_eq, h other hlt] at hother
    exact Bool.false_ne_true hother
  · exact eq_false_of_ne_true fun hheld => not_le.2 hother (h hheld)

/-- Finding a device answers the first slot that holds it, or that there is none. -/
theorem find_value (bus : Bus) {vendor : UInt16} (hvendor : vendor ≠ noVendor) (device : UInt16) :
    (find bus vendor device).value =
      match (List.finRange slotCount).find? (holds bus vendor device) with
      | some slot => .ok slot
      | none => .error .deviceNotFound := by
  unfold find
  rw [Logged.value_bind, value_scan bus hvendor]
  cases (List.finRange slotCount).find? (holds bus vendor device) <;> rfl

/-- An answer is the first slot with a property, or that no slot has it. -/
structure AnswersFirst (p : Fin slotCount → Prop)
    (outcome : Except SetupError (Fin slotCount)) : Prop where
  /-- A slot is answered exactly if it is the first one with the property. -/
  found : ∀ slot, outcome = .ok slot ↔ IsLeast {slot | p slot} slot
  /-- No slot is answered exactly if none has the property, and this is the only error. -/
  missing : ∀ error, outcome = .error error ↔ error = .deviceNotFound ∧ ∀ slot, ¬p slot

/-- The first slot with a property is the right answer. -/
theorem answersFirst_ok {p : Fin slotCount → Prop} {first : Fin slotCount}
    (hleast : IsLeast {slot | p slot} first) : AnswersFirst p (.ok first) where
  found slot := by
    rw [Except.ok.injEq]
    exact ⟨fun h => h ▸ hleast, fun h => hleast.unique h⟩
  missing error := ⟨(nomatch ·), fun h => absurd hleast.1 (h.2 first)⟩

/-- Where no slot has a property, it is right to answer so. -/
theorem answersFirst_error {p : Fin slotCount → Prop} (hnone : ∀ slot, ¬p slot) :
    AnswersFirst p (.error .deviceNotFound) where
  found slot := ⟨(nomatch ·), fun h => absurd h.1 (hnone slot)⟩
  missing error := by
    rw [Except.error.injEq]
    exact ⟨fun h => ⟨h.symm, hnone⟩, fun h => h.1.symm⟩

/-- A device with any vendor number but that of an empty slot is found where it comes first. -/
theorem finds (bus : Bus) {vendor : UInt16} (hvendor : vendor ≠ noVendor) (device : UInt16) :
    AnswersFirst (fun slot => (bus.function slot).vendor = vendor ∧ (bus.function slot).device = device)
      (find bus vendor device).value := by
  have hholds (slot : Fin slotCount) : holds bus vendor device slot = true ↔
      (bus.function slot).vendor = vendor ∧ (bus.function slot).device = device := decide_eq_true_iff
  rw [find_value bus hvendor]
  cases hscan : (List.finRange slotCount).find? (holds bus vendor device) with
  | some first =>
    have hleast := (find?_slots_eq_some_iff _ first).1 hscan
    simp only [hholds] at hleast
    exact answersFirst_ok hleast
  | none =>
    refine answersFirst_error fun slot hslot => ?_
    exact List.find?_eq_none.1 hscan slot (List.mem_finRange slot) ((hholds slot).2 hslot)

/-! ## Switching on the card -/

/-- One window before and another after the card of a slot was switched on: the slot's command reads
7, its first base address is the given one, and every other word of the window is the same. -/
def Mapped (before after : Bus) (slot : Fin slotCount) (address : UInt32) : Prop :=
  ∀ (other : Fin slotCount) (word : Fin registerCount),
    (after.function other).word word =
      if other = slot ∧ word.val = 1 then 7
      else if other = slot ∧ word.val = 4 then address
      else (before.function other).word word

/-- Writing a slot's command and first base address maps it. -/
theorem mapped_put (bus : Bus) (slot : Fin slotCount) (address : UInt32) :
    Mapped bus (bus.put slot (((bus.function slot).setCommand enableCommand).setBar 0 address)) slot
      address := by
  intro other word
  have hcommand : word = Function.commandIndex ↔ word.val = 1 := Fin.ext_iff
  have hbar : word = Function.barIndex 0 ↔ word.val = 4 := Fin.ext_iff
  rw [Bus.function_put]
  by_cases hother : other = slot
  · subst hother
    unfold Function.setCommand Function.setBar
    rw [if_pos rfl, Function.word_write, Function.word_write]
    simp only [hcommand, hbar, true_and]
    -- the two words are different ones, so it does not matter which is asked for first
    by_cases hword : word.val = 4
    · rw [if_pos hword, if_neg (by omega), if_pos hword]
    · rw [if_neg hword, if_neg hword]
      rfl
  · simp only [hother, false_and, if_false]

/-- What switching on the device of a slot comes to. -/
structure Enables (bus : Bus) (slot : Fin slotCount) (address : UInt32) : Prop where
  /-- It succeeds exactly if the slot holds the card. -/
  succeeds : (enable bus slot address).value.1 = .ok () ↔
    (bus.function slot).word 0 = Function.cardWord
  /-- An empty slot is told from other devices by its vendor number. -/
  empty : (enable bus slot address).value.1 = .error .deviceNotFound ↔
    (bus.function slot).vendor = noVendor
  /-- Another device is refused with the numbers that its slot shows. -/
  unexpected : ∀ vendor device,
    (enable bus slot address).value.1 = .error (.unexpectedDevice vendor device) ↔
      (bus.function slot).vendor ≠ noVendor ∧ (bus.function slot).word 0 ≠ Function.cardWord ∧
        (bus.function slot).vendor = vendor ∧ (bus.function slot).device = device
  /-- The rings have no part in it. -/
  geometry : (enable bus slot address).value.1 ≠ .error .badRingGeometry
  /-- After a success the slot is mapped. -/
  mapped : (enable bus slot address).value.1 = .ok () →
    Mapped bus (enable bus slot address).value.2 slot address
  /-- After an error the window is as it was. -/
  untouched : ∀ error, (enable bus slot address).value.1 = .error error →
    (enable bus slot address).value.2 = bus

/-- Switching on a device, by what its slot shows. -/
theorem enable_value (bus : Bus) (slot : Fin slotCount) (address : UInt32) :
    (enable bus slot address).value =
      if (bus.function slot).vendor = noVendor then (.error .deviceNotFound, bus)
      else if (bus.function slot).word 0 = Function.cardWord then
        (.ok (), bus.put slot (((bus.function slot).setCommand enableCommand).setBar 0 address))
      else (.error (.unexpectedDevice (bus.function slot).vendor (bus.function slot).device), bus) := by
  unfold enable
  generalize bus.function slot = f
  have hcard := f.first_eq_cardWord_iff
  by_cases hempty : f.vendor = noVendor
  · simp only [hempty, if_true, Logged.value_pure]
  · by_cases hother : f.vendor ≠ cardVendor ∨ f.device ≠ cardDevice
    · have hword : f.word 0 ≠ Function.cardWord := fun h =>
        Decidable.not_and_iff_or_not.2 hother (hcard.1 h)
      simp only [if_neg hempty, if_pos hother, if_neg hword, Logged.value_pure]
    · have hword : f.word 0 = Function.cardWord := by
        rw [not_or, not_not, not_not] at hother
        exact hcard.2 hother
      simp only [if_neg hempty, if_neg hother, if_pos hword, Logged.value_bind, Logged.value_pure,
        value_probeBars]

/-- The card's first word is not that of an empty slot. -/
theorem vendor_of_card {f : Function} (h : f.word 0 = Function.cardWord) : f.vendor ≠ noVendor := by
  rw [((Function.first_eq_cardWord_iff f).1 h).1]
  decide

/-- Switching on the device of any slot. -/
theorem enables (bus : Bus) (slot : Fin slotCount) (address : UInt32) :
    Enables bus slot address := by
  have hvalue := enable_value bus slot address
  have hmapped := mapped_put bus slot address
  have hvendor := vendor_of_card (f := bus.function slot)
  by_cases hempty : (bus.function slot).vendor = noVendor
  · have hcard : (bus.function slot).word 0 ≠ Function.cardWord := fun h => hvendor h hempty
    rw [if_pos hempty] at hvalue
    constructor
    all_goals
      generalize bus.function slot = f at *
      simp [hvalue, hempty, hcard]
  · rw [if_neg hempty] at hvalue
    by_cases hcard : (bus.function slot).word 0 = Function.cardWord
    · rw [if_pos hcard] at hvalue
      constructor
      all_goals
        generalize bus.function slot = f at *
        simp [hvalue, hempty, hcard, hmapped]
    · rw [if_neg hcard] at hvalue
      constructor
      all_goals
        generalize bus.function slot = f at *
        simp [hvalue, hempty, hcard]

/-! ## Both together -/

/-- What finding the card and switching it on comes to. -/
structure Probes (bus : Bus) (address : UInt32) : Prop where
  /-- The answer is the first slot whose first word is the card's. -/
  answers : AnswersFirst (fun slot => (bus.function slot).word 0 = Function.cardWord)
    (probe bus address).value.1
  /-- The slot that is answered is mapped. -/
  mapped : ∀ slot, (probe bus address).value.1 = .ok slot →
    Mapped bus (probe bus address).value.2 slot address
  /-- After an error the window is as it was. -/
  untouched : ∀ error, (probe bus address).value.1 = .error error →
    (probe bus address).value.2 = bus

/-- A probe that finds no card changes nothing; one that finds it ends as switching it on does. -/
theorem probe_value (bus : Bus) (address : UInt32) :
    (probe bus address).value =
      match (find bus cardVendor cardDevice).value with
      | .error error => (.error error, bus)
      | .ok slot =>
        ((enable bus slot address).value.1.map fun _ => slot, (enable bus slot address).value.2) := by
  unfold probe
  rw [Logged.value_bind]
  cases (find bus cardVendor cardDevice).value <;> rfl

/-- Probing any bus. The slot that is found passes the second look at its numbers. -/
theorem probes (bus : Bus) (address : UInt32) : Probes bus address := by
  have hvalue := probe_value bus address
  have hfinds := finds bus (show cardVendor ≠ noVendor by decide) cardDevice
  simp only [← Function.first_eq_cardWord_iff] at hfinds
  cases hfind : (find bus cardVendor cardDevice).value with
  | error error =>
    rw [hfind] at hvalue hfinds
    obtain ⟨rfl, hnone⟩ := (hfinds.missing error).1 rfl
    constructor
    · rw [hvalue]
      exact hfinds
    · intro slot h
      rw [hvalue] at h
      exact nomatch h
    · intro error _
      rw [hvalue]
  | ok first =>
    rw [hfind] at hvalue hfinds
    have henables := enables bus first address
    have hok := henables.succeeds.2 ((hfinds.found first).1 rfl).1
    simp only [hok, Except.map] at hvalue
    constructor
    · rw [hvalue]
      exact hfinds
    · intro slot h
      rw [hvalue, Except.ok.injEq] at h
      rw [hvalue, ← h]
      exact henables.mapped hok
    · intro error h
      rw [hvalue] at h
      exact nomatch h

/-- What the operations of the bus come to, on any content of the window. -/
structure Probing (bus : Bus) : Prop where
  /-- Any device is found where it comes first; only empty slots cannot be looked for. -/
  find : ∀ vendor device, vendor ≠ noVendor →
    AnswersFirst (fun slot => (bus.function slot).vendor = vendor ∧ (bus.function slot).device = device)
      (find bus vendor device).value
  enable : ∀ slot address, Enables bus slot address
  probe : ∀ address, Probes bus address

/-- Finding a device, switching on the device of a slot and probing for the card do what they should
on every bus, whatever its 32 slots show, and whatever address the card is mapped to. -/
theorem probing (bus : Bus) : Probing bus where
  find _ device hvendor := finds bus hvendor device
  enable := enables bus
  probe := probes bus

end NetStack.Pci
