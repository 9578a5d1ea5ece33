import NetStack.Proofs.Rings
import NetStack.Proofs.Sides

/-!
# The transmit ring as a queue

Driver and card share the transmit ring through the done bits and two registers. Equal registers do
not tell an empty ring from a full one; the number of pending descriptors does. `TxLinked` is what
ties the bits, the registers and that number together, and `outstanding` reads the ring as the queue
of the frames that were handed over and not yet sent. Sending takes frames off the front of the
queue (`Sends`), and a transmission puts one at its end (`TxLinked.exists_write_tdt`). At the
driver, `Transmits` are the three outcomes of a transmission, and `TxLinked.transmit_spec` says that
there are no others.
-/

namespace NetStack

/-- A descriptor that was handed back is free. -/
theorem TxDescriptor.done_complete (descriptor : TxDescriptor) :
    descriptor.complete.done = true := by
  have hbits : (descriptor.status ||| Bits.statusDone) &&& Bits.statusDone ≠ 0 := by
    intro h
    have hbits := congrArg UInt8.toBitVec h
    rw [UInt8.toBitVec_and, UInt8.toBitVec_or, BitVec.and_comm, BitVec.and_or_distrib_left,
      BitVec.and_self] at hbits
    exact absurd (BitVec.or_eq_zero_iff.1 hbits).2 (by decide)
  simpa [complete, done, isDone] using hbits

/-- A descriptor that was handed over is not free. -/
theorem TxDescriptor.done_submit (descriptor : TxDescriptor) (length : Nat) :
    (descriptor.submit length).done = false := by
  simp [submit, done, isDone]

/-- The length that a handed over descriptor announces. -/
theorem TxDescriptor.length_submit (descriptor : TxDescriptor) {length : Nat}
    (h : length ≤ Host.txBufferSize) : (descriptor.submit length).length.toNat = length := by
  have hsize : length < 65536 := Nat.lt_of_le_of_lt h (by decide)
  exact UInt16.toNat_ofNat_of_lt' hsize

namespace Emulated

/-- The slot at the transmit head. -/
def txHead (card : Emulated) : Fin Host.txRingSize :=
  Slot.wrap card.registers.tdh Host.txRingSize_pos

/-- The frames that were handed over and not yet sent, oldest first. -/
def outstanding (card : Emulated) (tx : TxRing) : List Bytes :=
  Slot.window (tx.held TxDescriptor.length) card.txHead card.pending

/-- What ties the transmit registers, the number of pending descriptors and the done bits together.
-/
structure TxLinked (card : Emulated) (tx : TxRing) : Prop where
  /-- The card knows the size of the ring. -/
  slots : card.registers.txSlots = Host.txRingSize
  /-- No more descriptors are pending than there are. -/
  pending_le : card.pending ≤ Host.txRingSize
  /-- The tail is as many slots behind the head as descriptors are pending. -/
  tail : card.registers.tdt = Slot.toWord (Slot.ahead card.txHead card.pending)
  /-- Every descriptor points to its own buffer. -/
  pointed : tx.Pointed
  /-- The pending slots, from the head on, belong to the card, and the others to the driver. -/
  done_iff : ∀ k < Host.txRingSize,
    (tx.descriptor (Slot.ahead card.txHead k)).done = true ↔ card.pending ≤ k

/-- An untouched transmit side has the same head. -/
theorem SameTx.txHead_eq {card next : Emulated} (h : card.SameTx next) :
    next.txHead = card.txHead := by
  unfold txHead
  rw [h.tdh]

/-- An untouched transmit side has the same frames outstanding. -/
theorem SameTx.outstanding_eq {card next : Emulated} (h : card.SameTx next) (tx : TxRing) :
    next.outstanding tx = card.outstanding tx := by
  unfold outstanding
  rw [h.txHead_eq, h.pending]

/-- An untouched transmit side stays linked. -/
theorem TxLinked.of_sameTx {card next : Emulated} {tx : TxRing} (h : card.TxLinked tx)
    (hsame : card.SameTx next) : next.TxLinked tx where
  slots := by
    unfold Registers.txSlots
    rw [hsame.tdlen]
    exact h.slots
  pending_le := by
    rw [hsame.pending]
    exact h.pending_le
  tail := by
    rw [hsame.tdt, hsame.txHead_eq, hsame.pending]
    exact h.tail
  pointed := h.pointed
  done_iff := by
    rw [hsame.txHead_eq, hsame.pending]
    exact h.done_iff

/-- The link depends neither on what was sent nor on who completes transmissions. -/
theorem TxLinked.of_line {card : Emulated} {tx : TxRing} (h : card.TxLinked tx)
    (autoComplete : Bool) (sent : List Bytes) :
    TxLinked { card with autoComplete, sent } tx :=
  ⟨h.slots, h.pending_le, h.tail, h.pointed, h.done_iff⟩

/-! ## Sending -/

/-- What a descriptor of a pointed ring points to is its own slot's frame. -/
theorem frameOf_eq_held {tx : TxRing} (h : tx.Pointed) (slot : Fin Host.txRingSize) :
    frameOf tx (tx.descriptor slot) = tx.held TxDescriptor.length slot := by
  have hslot : tx.slotAt? (tx.descriptor slot).address = some slot := h slot
  unfold frameOf
  rw [hslot]
  rfl

/-- The card and its ring with the `count` oldest of the outstanding frames sent. -/
structure Sends (count : Nat) (card : Emulated) (tx : TxRing) (next : Emulated) (nextTx : TxRing) :
    Prop where
  linked : next.TxLinked nextTx
  pending : next.pending + count = card.pending
  sent : next.sent = card.sent ++ (card.outstanding tx).take count
  outstanding : next.outstanding nextTx = (card.outstanding tx).drop count

/-- Sending nothing changes nothing. -/
theorem Sends.zero {card : Emulated} {tx : TxRing} (h : card.TxLinked tx) :
    Sends 0 card tx card tx :=
  ⟨h, rfl, by simp, by simp⟩

/-- Sending some frames and then some more sends them all. -/
theorem Sends.trans {i j : Nat} {a b c : Emulated} {aTx bTx cTx : TxRing}
    (h : Sends i a aTx b bTx) (h' : Sends j b bTx c cTx) : Sends (i + j) a aTx c cTx where
  linked := h'.linked
  pending := by
    have hfirst := h.pending
    have hthen := h'.pending
    omega
  sent := by
    rw [h'.sent, h.sent, h.outstanding, List.append_assoc, List.take_add]
  outstanding := by
    rw [h'.outstanding, h.outstanding, List.drop_drop]

/-- The card after the frame at its head went to the line. -/
def headSent (card : Emulated) (tx : TxRing) : Emulated where
  registers := card.registers.set (Slot.toWord (Slot.next card.txHead)) .tdh
  pending := card.pending - 1
  autoComplete := card.autoComplete
  sent := card.sent ++ [tx.held TxDescriptor.length card.txHead]

/-- The head of a card that sent a frame has moved on. -/
theorem txHead_headSent (card : Emulated) (tx : TxRing) :
    (card.headSent tx).txHead = Slot.next card.txHead :=
  Slot.wrap_toWord _ _ (by decide)

/-- Sending the frame at the head of a pointed ring moves the head on and hands the descriptor back.
-/
theorem sendHead_value {card : Emulated} {tx : TxRing}
    (hslots : card.registers.txSlots = Host.txRingSize) (hpointed : tx.Pointed) :
    (card.sendHead tx).value =
      (card.headSent tx, tx.setDescriptor card.txHead (tx.descriptor card.txHead).complete) := by
  have hhead : card.registers.tdh.toNat % Host.txRingSize = card.txHead.val := rfl
  simp only [sendHead, hslots, hhead, Slot.ofNat?_val, Logged.value_bind, Logged.value_pure,
    frameOf_eq_held hpointed]
  rfl

/-- Every descriptor that is sent is one less pending, whatever the ring holds. -/
theorem pending_sendMany (card : Emulated) (tx : TxRing) (count : Nat) :
    (card.sendMany tx count).value.1.pending = card.pending - count ∧
      (card.sendMany tx count).value.1.autoComplete = card.autoComplete := by
  induction count generalizing card tx with
  | zero => exact ⟨rfl, rfl⟩
  | succ count ih =>
    have hhead : (card.sendHead tx).value.1.pending = card.pending - 1 ∧
        (card.sendHead tx).value.1.autoComplete = card.autoComplete := by
      simp only [sendHead]
      split <;> exact ⟨rfl, rfl⟩
    obtain ⟨hpending, hauto⟩ := ih (card.sendHead tx).value.1 (card.sendHead tx).value.2
    rw [hhead.1] at hpending
    simp only [sendMany, Logged.value_bind]
    exact ⟨by omega, hauto.trans hhead.2⟩

/-- A card that sent the frame at its head is linked to the ring in which that slot is free. -/
theorem TxLinked.headSent {card : Emulated} {tx : TxRing} (h : card.TxLinked tx)
    (hpending : 0 < card.pending) :
    (card.headSent tx).TxLinked
      (tx.setDescriptor card.txHead (tx.descriptor card.txHead).complete) where
  slots := h.slots
  pending_le := Nat.le_trans (Nat.sub_le _ _) h.pending_le
  tail := by
    rw [txHead_headSent, Slot.ahead_next]
    show card.registers.tdt = Slot.toWord (Slot.ahead card.txHead (card.pending - 1 + 1))
    rw [Nat.sub_add_cancel hpending]
    exact h.tail
  pointed := h.pointed.setDescriptor rfl
  done_iff := by
    intro k hk
    have hle := h.pending_le
    rw [txHead_headSent, Slot.ahead_next, Ring.descriptor_setDescriptor]
    show _ ↔ card.pending - 1 ≤ k
    rcases Nat.lt_or_ge (k + 1) Host.txRingSize with hnear | hturn
    · rw [if_neg (Slot.ahead_ne_self _ hnear), h.done_iff _ hnear]
      omega
    · -- the slot furthest from the new head is the one that was just handed back
      have hlast : k + 1 = Host.txRingSize := by omega
      rw [hlast, Slot.ahead_size, if_pos rfl]
      exact iff_of_true (TxDescriptor.done_complete _) (by omega)

/-- The frame at the head is the oldest of the outstanding ones. -/
theorem outstanding_eq_cons (card : Emulated) (tx : TxRing) (hpending : 0 < card.pending) :
    card.outstanding tx = tx.held TxDescriptor.length card.txHead ::
      Slot.window (tx.held TxDescriptor.length) (Slot.next card.txHead) (card.pending - 1) := by
  unfold outstanding
  rw [← Slot.window_succ, Nat.sub_add_cancel hpending]

/-- The frame at the head is sent. -/
theorem TxLinked.sends_sendHead {card : Emulated} {tx : TxRing} (h : card.TxLinked tx)
    (hpending : 0 < card.pending) :
    Sends 1 card tx (card.sendHead tx).value.1 (card.sendHead tx).value.2 := by
  have hle := h.pending_le
  have houtstanding := card.outstanding_eq_cons tx hpending
  rw [sendHead_value h.slots h.pointed]
  constructor
  · exact h.headSent hpending
  · show card.pending - 1 + 1 = card.pending
    omega
  · rw [houtstanding]
    rfl
  · rw [houtstanding, List.drop_one, List.tail_cons]
    unfold Emulated.outstanding
    rw [txHead_headSent]
    apply Slot.window_congr
    intro k hk
    have hlt : k < card.pending - 1 := hk
    rw [Slot.ahead_next]
    exact tx.held_setDescriptor_of_ne _ _ (Slot.ahead_ne_self _ (by omega))

/-- As many frames as are asked for are sent, if as many are outstanding. -/
theorem TxLinked.sends_sendMany {card : Emulated} {tx : TxRing} {count : Nat}
    (h : card.TxLinked tx) (hcount : count ≤ card.pending) :
    Sends count card tx (card.sendMany tx count).value.1 (card.sendMany tx count).value.2 := by
  induction count generalizing card tx with
  | zero => exact Sends.zero h
  | succ count ih =>
    have hhead := h.sends_sendHead (by omega)
    have hpending := hhead.pending
    -- the head's frame is sent, and one fewer is left to be sent of one fewer outstanding
    have hrest := ih hhead.linked (by omega)
    have hboth := hhead.trans hrest
    rw [Nat.add_comm] at hboth
    exact hboth

/-- Completing transmissions sends their frames. -/
theorem TxLinked.sends_retire {card : Emulated} {tx : TxRing} {count : Nat} (h : card.TxLinked tx)
    (hcount : count ≤ card.pending) :
    Sends count card tx (card.retire tx count).value.1 (card.retire tx count).value.2 := by
  have hsends := h.sends_sendMany hcount
  simp only [retire, Logged.value_bind, Logged.value_pure]
  split
  · exact hsends
  · -- the interrupt cause that is raised is no part of the transmit side
    have hsame : SameTx (card.sendMany tx count).value.1
        ((card.sendMany tx count).value.1.raise Bits.causeTxWritten) :=
      ⟨rfl, rfl, rfl, rfl, rfl, rfl⟩
    exact ⟨hsends.linked.of_sameTx hsame, hsends.pending, hsends.sent,
      (hsame.outstanding_eq _).trans hsends.outstanding⟩

/-- What is sent and what is outstanding are together the same frames as before. -/
theorem Sends.sent_append {count : Nat} {card next : Emulated} {tx nextTx : TxRing}
    (h : Sends count card tx next nextTx) :
    next.sent ++ next.outstanding nextTx = card.sent ++ card.outstanding tx := by
  rw [h.sent, h.outstanding, List.append_assoc, List.take_append_drop]

/-- Completing on request sends as many frames as were asked for, or all. -/
theorem TxLinked.sends_complete {card : Emulated} {tx : TxRing} (h : card.TxLinked tx)
    (count : Nat) :
    (card.complete tx count).value.1 = .count (min count card.pending) ∧
      Sends (min count card.pending) card tx (card.complete tx count).value.2.1
        (card.complete tx count).value.2.2 := by
  have hslots : ¬card.registers.txSlots = 0 := by
    rw [h.slots]
    decide
  simp only [complete, hslots, and_false, if_false]
  exact ⟨rfl, h.sends_retire (Nat.min_le_right _ _)⟩

/-! ## Handing over -/

/-- The slot at the transmit tail. -/
def txTail (card : Emulated) : Fin Host.txRingSize :=
  Slot.ahead card.txHead card.pending

/-- As long as a descriptor is free, the pending slots, and those behind the tail, are not at the
tail. -/
theorem ahead_ne_txTail (card : Emulated) (hroom : card.pending < Host.txRingSize) {k : Nat}
    (hk : k < Host.txRingSize) (hne : k ≠ card.pending) :
    Slot.ahead card.txHead k ≠ card.txTail := by
  intro h
  exact hne ((Slot.ahead_inj card.txHead hk hroom).1 h)

/-- The transmit ring with a frame put into a slot and its descriptor handed to the card. -/
def fillTx (tx : TxRing) (slot : Fin Host.txRingSize) (frame : Bytes) : TxRing :=
  (tx.load slot frame).setDescriptor slot ((tx.descriptor slot).submit frame.length)

/-- The card after its tail was moved to a slot and `count` more descriptors were handed over. -/
def tailAt (card : Emulated) (slot : Fin Host.txRingSize) (count : Nat) : Emulated where
  registers := card.registers.set (Slot.toWord slot) .tdt
  pending := card.pending + count
  autoComplete := card.autoComplete
  sent := card.sent

/-- A tail that is moved from one slot to another hands over the descriptors between them, which are
sent at once, with all that were pending before, if the card completes transmissions by itself. -/
theorem write_tdt_value {card : Emulated} {old : Fin Host.txRingSize} (new : Fin Host.txRingSize)
    (tx : TxRing) (hslots : card.registers.txSlots = Host.txRingSize)
    (htdt : card.registers.tdt = Slot.toWord old) :
    (card.write tx .tdt (Slot.toWord new)).value =
      if card.autoComplete then
        ((card.tailAt new (Slot.distance old new)).retire tx
          (card.pending + Slot.distance old new)).value
      else (card.tailAt new (Slot.distance old new), tx) := by
  have hslots' : (card.setRegister .tdt (Slot.toWord new)).registers.txSlots = Host.txRingSize :=
    hslots
  have hstep : ((Slot.toWord new).toNat + Host.txRingSize -
      card.registers.tdt.toNat % Host.txRingSize) % Host.txRingSize = Slot.distance old new := by
    rw [htdt, Slot.toNat_toWord _ (by decide), Slot.toNat_toWord _ (by decide),
      Nat.mod_eq_of_lt old.isLt]
    rfl
  simp only [write, tailMoved, hslots', hstep]
  rw [if_neg (by decide)]
  cases hauto : card.autoComplete
  · rw [if_neg (by simp [setRegister, hauto]), if_neg (by decide)]
    simp [tailAt, setRegister, hauto]
  · rw [if_pos (by simp [setRegister, hauto]), if_pos rfl]
    simp [tailAt, setRegister, hauto]

/-- The card after one more descriptor was handed over. -/
def handedOver (card : Emulated) : Emulated where
  registers := card.registers.set (Slot.toWord (Slot.next card.txTail)) .tdt
  pending := card.pending + 1
  autoComplete := card.autoComplete
  sent := card.sent

/-- A tail that is moved on by one slot hands over one descriptor. -/
theorem TxLinked.write_tdt_value {card : Emulated} {tx : TxRing} (h : card.TxLinked tx)
    (filled : TxRing) :
    (card.write filled .tdt (Slot.toWord (Slot.next card.txTail))).value =
      if card.autoComplete then (card.handedOver.retire filled (card.pending + 1)).value
      else (card.handedOver, filled) := by
  have htdt : card.registers.tdt = Slot.toWord card.txTail := h.tail
  have hone : Slot.distance card.txTail (Slot.next card.txTail) = 1 :=
    Slot.distance_ahead card.txTail (by decide)
  rw [Emulated.write_tdt_value _ _ h.slots htdt, hone]
  rfl

/-- A card that took over a frame is linked to the ring that holds it. -/
theorem TxLinked.handedOver {card : Emulated} {tx : TxRing} (h : card.TxLinked tx)
    (hroom : card.pending < Host.txRingSize) (frame : Bytes) :
    card.handedOver.TxLinked (fillTx tx card.txTail frame) where
  slots := h.slots
  pending_le := hroom
  tail := by
    show Slot.toWord (Slot.next (Slot.ahead card.txHead card.pending)) = _
    rw [Slot.next_ahead]
    rfl
  pointed := (h.pointed.load _ _).setDescriptor rfl
  done_iff := by
    intro k hk
    show ((fillTx tx card.txTail frame).descriptor (Slot.ahead card.txHead k)).done = true ↔
      card.pending + 1 ≤ k
    unfold fillTx
    rw [Ring.descriptor_setDescriptor, Ring.descriptor_load]
    -- only the slot at the tail changed hands
    by_cases hlast : k = card.pending
    · have htail : Slot.ahead card.txHead k = card.txTail := by
        rw [hlast]
        rfl
      rw [if_pos htail, TxDescriptor.done_submit]
      exact iff_of_false (by decide) (by omega)
    · rw [if_neg (card.ahead_ne_txTail hroom hk hlast), h.done_iff k hk]
      omega

/-- The frame that was handed over is the youngest of the outstanding ones. -/
theorem outstanding_handedOver (card : Emulated) (tx : TxRing)
    (hroom : card.pending < Host.txRingSize) {frame : Bytes}
    (hfits : frame.length ≤ Host.txBufferSize) :
    card.handedOver.outstanding (fillTx tx card.txTail frame) = card.outstanding tx ++ [frame] := by
  show Slot.window _ card.txHead (card.pending + 1) = _
  have hlast : (fillTx tx card.txTail frame).held TxDescriptor.length card.txTail = frame :=
    tx.held_fill_self _ _ hfits (TxDescriptor.length_submit _ hfits)
  have hothers : Slot.window ((fillTx tx card.txTail frame).held TxDescriptor.length) card.txHead
      card.pending = card.outstanding tx := by
    apply Slot.window_congr
    intro k hk
    exact tx.held_fill_of_ne _ _ _ (card.ahead_ne_txTail hroom (by omega) (Nat.ne_of_lt hk))
  rw [Slot.window_snoc, hothers]
  exact congrArg (fun last => card.outstanding tx ++ [last]) hlast

/-- Handing a frame over puts it behind all frames that were sent or are outstanding. -/
theorem TxLinked.exists_write_tdt {card : Emulated} {tx : TxRing} (h : card.TxLinked tx)
    (hroom : card.pending < Host.txRingSize) {frame : Bytes}
    (hfits : frame.length ≤ Host.txBufferSize) :
    ∃ next nextTx,
      (card.write (fillTx tx card.txTail frame) .tdt
        (Slot.toWord (Slot.next card.txTail))).value = (next, nextTx) ∧
      next.TxLinked nextTx ∧
      next.sent ++ next.outstanding nextTx = card.sent ++ card.outstanding tx ++ [frame] := by
  have hlinked := h.handedOver hroom frame
  have hframes : card.handedOver.sent ++ card.handedOver.outstanding (fillTx tx card.txTail frame) =
      card.sent ++ card.outstanding tx ++ [frame] := by
    rw [outstanding_handedOver card tx hroom hfits, List.append_assoc]
    rfl
  rw [h.write_tdt_value]
  cases card.autoComplete with
  | false => exact ⟨_, _, rfl, hlinked, hframes⟩
  | true =>
    -- the card sends what it took over at once, with all that was outstanding
    have hsends := hlinked.sends_retire (Nat.le_refl (card.pending + 1))
    exact ⟨_, _, rfl, hsends.linked, hsends.sent_append.trans hframes⟩

end Emulated

namespace Adapter

/-- The transmit ring of a driver over the emulated card is linked to the card. -/
def TxLinked (adapter : Adapter Emulated) : Prop :=
  adapter.bus.TxLinked adapter.tx

/-- The frames that a driver handed over and that are not yet sent, oldest first. -/
def outstanding (adapter : Adapter Emulated) : List Bytes :=
  adapter.bus.outstanding adapter.tx

/-- An untouched transmit side stays linked. -/
theorem TxLinked.of_sameTx {adapter next : Adapter Emulated} (h : adapter.TxLinked)
    (hsame : adapter.SameTx next) : next.TxLinked := by
  unfold TxLinked
  rw [hsame.tx]
  exact Emulated.TxLinked.of_sameTx h hsame.card

/-- An untouched transmit side has the same frames on their way. -/
theorem SameTx.frames_eq {adapter next : Adapter Emulated} (h : adapter.SameTx next) :
    next.bus.sent ++ next.outstanding = adapter.bus.sent ++ adapter.outstanding := by
  unfold outstanding
  rw [h.tx, h.card.sent, h.card.outstanding_eq]

/-- A frame that does not fit a buffer is refused, and the refusal is counted. -/
theorem transmit_of_tooLong (adapter : Adapter Emulated) {frame : Bytes}
    (hlong : Host.txBufferSize < frame.length) :
    (adapter.transmit frame).value =
      (.error (.frameTooLarge frame.length Host.txBufferSize), adapter.countTxDropped) := by
  simp only [transmit]
  rw [if_pos hlong]
  rfl

/-- A frame that is taken fits a buffer. -/
theorem length_of_transmit {adapter next : Adapter Emulated} {frame : Bytes}
    (h : (adapter.transmit frame).value = (.ok (), next)) : frame.length ≤ Host.txBufferSize := by
  refine Nat.le_of_not_lt fun hlong => ?_
  rw [adapter.transmit_of_tooLong hlong] at h
  cases h

/-- The slot that a transmission looks at is the one at the tail. -/
theorem TxLinked.wrap_tdt {adapter : Adapter Emulated} (h : adapter.TxLinked) :
    Slot.wrap (adapter.bus.registers.get .tdt) Host.txRingSize_pos = adapter.bus.txTail := by
  show Slot.wrap adapter.bus.registers.tdt Host.txRingSize_pos = adapter.bus.txTail
  rw [h.tail, Slot.wrap_toWord _ _ (by decide)]
  rfl

/-- A frame that finds all descriptors pending is refused, and the refusal is counted. -/
theorem TxLinked.transmit_of_full {adapter : Adapter Emulated} (h : adapter.TxLinked)
    {frame : Bytes} (hfits : frame.length ≤ Host.txBufferSize)
    (hfull : adapter.bus.pending = Host.txRingSize) :
    (adapter.transmit frame).value = (.error .ringFull, adapter.countTxDropped) := by
  -- with all of them pending, the slot at the tail is the one at the head
  have hdone : ¬(adapter.tx.descriptor adapter.bus.txTail).done = true := by
    have hhead := h.done_iff 0 (by decide)
    rw [Slot.ahead_zero] at hhead
    rw [Emulated.txTail, hfull, Slot.ahead_size, hhead, hfull]
    decide
  simp only [transmit, RegisterBus.read, Emulated.read, h.wrap_tdt]
  rw [if_neg (Nat.not_lt.2 hfits), if_neg hdone]
  rfl

/-- A frame that fits and finds a free descriptor is taken: it comes behind all frames that were
sent or are outstanding, and is counted. -/
theorem TxLinked.exists_transmit {adapter : Adapter Emulated} (h : adapter.TxLinked)
    {frame : Bytes} (hfits : frame.length ≤ Host.txBufferSize)
    (hroom : adapter.bus.pending < Host.txRingSize) :
    ∃ next, (adapter.transmit frame).value = (.ok (), next) ∧ next.TxLinked ∧
      next.bus.sent ++ next.outstanding =
        adapter.bus.sent ++ adapter.outstanding ++ [frame] ∧
      next.stats = { adapter.stats with
        txPackets := adapter.stats.txPackets + 1
        txBytes := adapter.stats.txBytes + frame.length } := by
  obtain ⟨bus, tx, hwrite, hlinked, hframes⟩ := Emulated.TxLinked.exists_write_tdt h hroom hfits
  -- the slot at the tail is not pending, so its done bit is set
  have hdone : (adapter.tx.descriptor adapter.bus.txTail).done = true :=
    (h.done_iff _ hroom).2 (Nat.le_refl _)
  refine ⟨{ adapter with
    bus, tx
    stats := { adapter.stats with
      txPackets := adapter.stats.txPackets + 1
      txBytes := adapter.stats.txBytes + frame.length } }, ?_, hlinked, hframes, rfl⟩
  simp only [transmit, RegisterBus.read, Emulated.read, h.wrap_tdt]
  rw [if_neg (Nat.not_lt.2 hfits), if_pos hdone]
  simp only [Logged.value_bind, Logged.value_pure, RegisterBus.write]
  have hwrite' : (adapter.bus.write ((adapter.tx.load adapter.bus.txTail frame).setDescriptor
      adapter.bus.txTail ((adapter.tx.descriptor adapter.bus.txTail).submit frame.length)) .tdt
      (Slot.toWord (Slot.next adapter.bus.txTail))).value = (bus, tx) := hwrite
  simp only [reduceCtorEq, if_false, hwrite']

/-- What comes of a transmission, and what it makes of the driver. -/
inductive Transmits (frame : Bytes) (adapter : Adapter Emulated) :
    Except TransmitError Unit → Adapter Emulated → Prop
  | tooLong (hlong : Host.txBufferSize < frame.length) :
      Transmits frame adapter (.error (.frameTooLarge frame.length Host.txBufferSize))
        adapter.countTxDropped
  | full (hfits : frame.length ≤ Host.txBufferSize)
      (hfull : adapter.bus.pending = Host.txRingSize) :
      Transmits frame adapter (.error .ringFull) adapter.countTxDropped
  /-- The frame comes behind all frames that were sent or are outstanding. -/
  | taken {next : Adapter Emulated} (hroom : adapter.bus.pending < Host.txRingSize)
      (hlinked : next.TxLinked)
      (hframes : next.bus.sent ++ next.outstanding =
        adapter.bus.sent ++ adapter.outstanding ++ [frame])
      (hstats : next.stats = { adapter.stats with
        txPackets := adapter.stats.txPackets + 1
        txBytes := adapter.stats.txBytes + frame.length }) :
      Transmits frame adapter (.ok ()) next

/-- The length of the frame and the number of pending descriptors decide about a transmission. -/
theorem TxLinked.transmit_spec {adapter next : Adapter Emulated} (h : adapter.TxLinked)
    {frame : Bytes} {outcome : Except TransmitError Unit}
    (hvalue : (adapter.transmit frame).value = (outcome, next)) :
    Transmits frame adapter outcome next := by
  rcases Nat.lt_or_ge Host.txBufferSize frame.length with hlong | hfits
  · rw [adapter.transmit_of_tooLong hlong] at hvalue
    cases hvalue
    exact .tooLong hlong
  · rcases Nat.lt_or_eq_of_le h.pending_le with hroom | hfull
    · obtain ⟨taking, htaking, hlinked, hframes, hstats⟩ := h.exists_transmit hfits hroom
      rw [htaking] at hvalue
      cases hvalue
      exact .taken hroom hlinked hframes hstats
    · rw [h.transmit_of_full hfits hfull] at hvalue
      cases hvalue
      exact .full hfits hfull

end Adapter

end NetStack
