import NetStack.Nic.Device

/-!
# The emulated card

A card in software, for running the stack without hardware. Its registers are a file in which the
interrupt cause is cleared by reading it. It works on the rings in the host's memory as the real
card does: a written transmit tail hands it descriptors, which it sends from the head on and marks
as done, at once or when told to; a frame from the line goes to the next receive descriptor between
head and tail, or is dropped.
-/

namespace NetStack

/-- The state of the emulated card. -/
structure Emulated where
  registers : Registers
  /-- The number of transmit descriptors handed over and not yet done. -/
  pending : Nat
  /-- Whether transmissions complete as soon as they are handed over. -/
  autoComplete : Bool
  /-- The frames sent and not yet taken from the line, oldest first. -/
  sent : List Bytes

namespace Emulated

/-- The card after a reset. -/
def start (autoComplete : Bool) : Emulated where
  registers := Registers.zero
  pending := 0
  autoComplete := autoComplete
  sent := []

/-- The card with a register set. -/
def setRegister (card : Emulated) (reg : Reg) (value : UInt32) : Emulated :=
  { card with registers := card.registers.set value reg }

/-- The card with an interrupt cause added. -/
def raise (card : Emulated) (cause : UInt32) : Emulated :=
  card.setRegister .icr (card.registers.icr ||| cause)

/-- The bytes that a transmit descriptor points to, as many as it says. -/
def frameOf (tx : TxRing) (descriptor : TxDescriptor) : Bytes :=
  match tx.slotAt? descriptor.address with
  | some slot => (tx.buffer slot).first descriptor.length.toNat
  | none => []

/-- Sends the frame at the transmit head, marks its descriptor as done and moves the head on. A head
outside the table just moves on. -/
def sendHead (card : Emulated) (tx : TxRing) : Logged (Emulated × TxRing) := do
  let slots := card.registers.txSlots
  let head := card.registers.tdh.toNat % slots
  let moved := { card.setRegister .tdh (UInt32.ofNat ((head + 1) % slots)) with
    pending := card.pending - 1 }
  match Slot.ofNat? Host.txRingSize head with
  | none => pure (moved, tx)
  | some slot =>
    let descriptor := tx.descriptor slot
    let frame := frameOf tx descriptor
    Logged.note .trace s!"emulated: tx head={head} len={frame.length}"
    pure ({ moved with sent := moved.sent ++ [frame] },
      tx.setDescriptor slot descriptor.complete)

/-- Sends the frames of the next `count` descriptors from the head on. -/
def sendMany (card : Emulated) (tx : TxRing) : Nat → Logged (Emulated × TxRing)
  | 0 => pure (card, tx)
  | count + 1 => do
    let (card, tx) ← card.sendHead tx
    sendMany card tx count

/-- Completes `count` transmissions, no more than are pending, and reports them. -/
def retire (card : Emulated) (tx : TxRing) (count : Nat) : Logged (Emulated × TxRing) := do
  let (card, tx) ← card.sendMany tx count
  pure (if count = 0 then card else card.raise Bits.causeTxWritten, tx)

/-- Takes over the descriptors between the old and the new transmit tail. -/
def tailMoved (card : Emulated) (tx : TxRing) (old new : UInt32) : Logged (Emulated × TxRing) :=
  let slots := card.registers.txSlots
  if slots = 0 then
    pure (card, tx)
  else
    -- the distance from the old tail to the new one, around the table
    let card := { card with
      pending := card.pending + (new.toNat + slots - old.toNat % slots) % slots }
    if card.autoComplete then card.retire tx card.pending else pure (card, tx)

/-- Reads a register; reading the interrupt cause clears it. -/
def read (card : Emulated) (reg : Reg) : UInt32 × Emulated :=
  (card.registers.get reg, if reg = .icr then card.setRegister .icr 0 else card)

/-- Writes a register. A transmit tail hands over descriptors; a transmit head forgets those that
were pending. -/
def write (card : Emulated) (tx : TxRing) (reg : Reg) (value : UInt32) :
    Logged (Emulated × TxRing) :=
  let written := card.setRegister reg value
  match reg with
  | .tdt => written.tailMoved tx card.registers.tdt value
  | .tdh => pure ({ written with pending := 0 }, tx)
  | _ => pure (written, tx)

/-- Completes up to `count` transmissions on request and says how many there were. With nothing to
count the head in, the card cannot go on. -/
def complete (card : Emulated) (tx : TxRing) (count : Nat) :
    Logged (Response × Emulated × TxRing) := do
  let done := min count card.pending
  if done ≠ 0 ∧ card.registers.txSlots = 0 then
    pure (.fault, card, tx)
  else
    let (card, tx) ← card.retire tx done
    pure (.count done, card, tx)

/-- A frame comes in from the line. It is dropped if the receiver is off, if it is longer than a
receive buffer, or if the head has met the tail. -/
def inject (card : Emulated) (rx : RxRing) (frame : Bytes) : Logged (Bool × Emulated × RxRing) := do
  let slots := card.registers.rxSlots
  if slots = 0 ∨ card.registers.rctl &&& Bits.rxEnable = 0 ∨ Host.rxBufferSize < frame.length then
    pure (false, card, rx)
  else
    let head := card.registers.rdh.toNat % slots
    -- where the head meets the tail, no slot belongs to the card
    if head = card.registers.rdt.toNat % slots then
      Logged.note .debug "emulated: rx ring full, frame dropped"
      pure (false, card, rx)
    else
      Logged.note .trace s!"emulated: rx head={head} len={frame.length}"
      let card := (card.setRegister .rdh (UInt32.ofNat ((head + 1) % slots))).raise
        Bits.causeReceived
      match Slot.ofNat? Host.rxRingSize head with
      | none => pure (true, card, rx)
      | some slot =>
        -- the data goes where the descriptor points, which is a buffer of the ring or nowhere
        let descriptor := rx.descriptor slot
        let rx := match rx.slotAt? descriptor.address with
          | some buffer => rx.load buffer frame
          | none => rx
        pure (true, card, rx.setDescriptor slot (descriptor.deliver frame.length))

/-- Whether a cause is raised that the mask lets through. -/
def interruptPending (card : Emulated) : Bool :=
  card.registers.icr &&& card.registers.ims != 0

/-- Handles the card from its own side. -/
def control (card : Emulated) (tx : TxRing) (rx : RxRing) :
    Control → Logged (Response × Emulated × TxRing × RxRing)
  | .inject frame => do
    let (accepted, card, rx) ← card.inject rx frame
    pure (.flag accepted, card, tx, rx)
  | .autoComplete on => pure (.ok, { card with autoComplete := on }, tx, rx)
  | .complete count => do
    let (response, card, tx) ← card.complete tx count
    pure (response, card, tx, rx)
  | .takeSent => pure (.frames card.sent, { card with sent := [] }, tx, rx)
  | .interruptPending => pure (.flag card.interruptPending, card, tx, rx)
  | .read reg =>
    let (value, card) := card.read reg
    pure (.word value, card, tx, rx)
  | .store reg value => do
    let (card, tx) ← card.write tx reg value
    pure (.ok, card, tx, rx)
  | .takeTrace => pure (.unsupported, card, tx, rx)

instance : Device Emulated where
  read := read
  write := write
  busAddress _ address := UInt64.ofNat address
  peek card reg := card.registers.get reg
  control := control

end Emulated

end NetStack
