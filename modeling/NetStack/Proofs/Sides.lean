import NetStack.Nic.Emulated
import NetStack.Responder

/-!
# The two sides of a card

The transmit side and the receive side of a driver share a card but none of its state. `SameTx` and
`SameRx` say that one side is untouched, on the card (`Emulated`) and on the driver with its rings
(`Adapter`). Sending, completing and answering ARP requests leave the receive side alone; taking
frames, interrupts and wake-ups leave the transmit side alone. What is proved of one side holds
therefore in every mixture of operations.
-/

namespace NetStack

namespace Bits

/-- Raising the transmit cause does not touch the receive cause. -/
theorem or_causeTxWritten_and (cause : UInt32) :
    (cause ||| causeTxWritten) &&& causeReceived = cause &&& causeReceived := by
  apply UInt32.toBitVec_inj.1
  rw [UInt32.toBitVec_and, UInt32.toBitVec_or, BitVec.and_comm, BitVec.and_or_distrib_left,
    show causeReceived.toBitVec &&& causeTxWritten.toBitVec = 0 from rfl, BitVec.and_comm]
  exact BitVec.or_zero

/-- A raised receive cause is seen. -/
theorem or_causeReceived_and_ne_zero (cause : UInt32) :
    (cause ||| causeReceived) &&& causeReceived ≠ 0 := by
  intro h
  have hbits := congrArg UInt32.toBitVec h
  rw [UInt32.toBitVec_and, UInt32.toBitVec_or, BitVec.and_comm, BitVec.and_or_distrib_left,
    BitVec.and_self] at hbits
  exact absurd (BitVec.or_eq_zero_iff.1 hbits).2 (by decide)

end Bits

namespace Emulated

/-- The receive side of a card is untouched. -/
structure SameRx (card next : Emulated) : Prop where
  rdlen : next.registers.rdlen = card.registers.rdlen
  rdh : next.registers.rdh = card.registers.rdh
  rdt : next.registers.rdt = card.registers.rdt
  rctl : next.registers.rctl = card.registers.rctl
  /-- Whether a received frame is reported as an interrupt cause. -/
  received : next.registers.icr &&& Bits.causeReceived = card.registers.icr &&& Bits.causeReceived

/-- The transmit side of a card is untouched. -/
structure SameTx (card next : Emulated) : Prop where
  tdlen : next.registers.tdlen = card.registers.tdlen
  tdh : next.registers.tdh = card.registers.tdh
  tdt : next.registers.tdt = card.registers.tdt
  pending : next.pending = card.pending
  autoComplete : next.autoComplete = card.autoComplete
  sent : next.sent = card.sent

theorem SameRx.refl (card : Emulated) : card.SameRx card := ⟨rfl, rfl, rfl, rfl, rfl⟩

theorem SameRx.trans {a b c : Emulated} (h : a.SameRx b) (h' : b.SameRx c) : a.SameRx c :=
  ⟨h'.rdlen.trans h.rdlen, h'.rdh.trans h.rdh, h'.rdt.trans h.rdt, h'.rctl.trans h.rctl,
    h'.received.trans h.received⟩

theorem SameTx.refl (card : Emulated) : card.SameTx card := ⟨rfl, rfl, rfl, rfl, rfl, rfl⟩

theorem SameTx.trans {a b c : Emulated} (h : a.SameTx b) (h' : b.SameTx c) : a.SameTx c :=
  ⟨h'.tdlen.trans h.tdlen, h'.tdh.trans h.tdh, h'.tdt.trans h.tdt, h'.pending.trans h.pending,
    h'.autoComplete.trans h.autoComplete, h'.sent.trans h.sent⟩

/-- Sending the frame at the head leaves the receive side alone. -/
theorem sameRx_sendHead (card : Emulated) (tx : TxRing) :
    card.SameRx (card.sendHead tx).value.1 := by
  simp only [sendHead]
  split
  · exact ⟨rfl, rfl, rfl, rfl, rfl⟩
  · exact ⟨rfl, rfl, rfl, rfl, rfl⟩

/-- Sending several frames leaves the receive side alone. -/
theorem sameRx_sendMany (card : Emulated) (tx : TxRing) (count : Nat) :
    card.SameRx (card.sendMany tx count).value.1 := by
  induction count generalizing card tx with
  | zero => exact SameRx.refl card
  | succ count ih =>
    simp only [sendMany, Logged.value_bind]
    exact (card.sameRx_sendHead tx).trans (ih _ _)

/-- A raised transmit cause leaves the receive side alone. -/
theorem sameRx_raise (card : Emulated) : card.SameRx (card.raise Bits.causeTxWritten) :=
  ⟨rfl, rfl, rfl, rfl, Bits.or_causeTxWritten_and _⟩

/-- Completing transmissions leaves the receive side alone. -/
theorem sameRx_retire (card : Emulated) (tx : TxRing) (count : Nat) :
    card.SameRx (card.retire tx count).value.1 := by
  have hsent := card.sameRx_sendMany tx count
  simp only [retire, Logged.value_bind, Logged.value_pure]
  split
  · exact hsent
  · exact hsent.trans (sameRx_raise _)

/-- A moved transmit tail leaves the receive side alone. -/
theorem sameRx_tailMoved (card : Emulated) (tx : TxRing) (old new : UInt32) :
    card.SameRx (card.tailMoved tx old new).value.1 := by
  simp only [tailMoved]
  split
  · exact SameRx.refl card
  · split
    · refine SameRx.trans ?_ (sameRx_retire _ _ _)
      exact ⟨rfl, rfl, rfl, rfl, rfl⟩
    · exact ⟨rfl, rfl, rfl, rfl, rfl⟩

/-- A write of the transmit tail leaves the receive side alone. -/
theorem sameRx_write_tdt (card : Emulated) (tx : TxRing) (value : UInt32) :
    card.SameRx (card.write tx .tdt value).value.1 := by
  refine SameRx.trans ?_ (sameRx_tailMoved (card.setRegister .tdt value) tx _ _)
  exact ⟨rfl, rfl, rfl, rfl, rfl⟩

/-- Completing transmissions on request leaves the receive side alone. -/
theorem sameRx_complete (card : Emulated) (tx : TxRing) (count : Nat) :
    card.SameRx (card.complete tx count).value.2.1 := by
  simp only [complete]
  split
  · exact SameRx.refl card
  · exact sameRx_retire _ _ _

/-- A frame from the line leaves the transmit side alone. -/
theorem sameTx_inject (card : Emulated) (rx : RxRing) (frame : Bytes) :
    card.SameTx (card.inject rx frame).value.2.1 := by
  simp only [inject]
  split
  · exact SameTx.refl card
  · split
    · exact SameTx.refl card
    · simp only [Logged.value_bind]
      split
      · exact ⟨rfl, rfl, rfl, rfl, rfl, rfl⟩
      · exact ⟨rfl, rfl, rfl, rfl, rfl, rfl⟩

end Emulated

namespace Adapter

/-- The receive side of a driver is untouched: its card's, its ring, its cursor and counters, and
the callers that wait for a frame. -/
structure SameRx (adapter next : Adapter Emulated) : Prop where
  card : adapter.bus.SameRx next.bus
  mac : next.mac = adapter.mac
  rx : next.rx = adapter.rx
  last : next.last = adapter.last
  arrival : next.arrival = adapter.arrival
  rxPackets : next.stats.rxPackets = adapter.stats.rxPackets
  rxBytes : next.stats.rxBytes = adapter.stats.rxBytes
  rxDropped : next.stats.rxDropped = adapter.stats.rxDropped

/-- The transmit side of a driver is untouched: its card's, its ring and its counters. -/
structure SameTx (adapter next : Adapter Emulated) : Prop where
  card : adapter.bus.SameTx next.bus
  mac : next.mac = adapter.mac
  tx : next.tx = adapter.tx
  txPackets : next.stats.txPackets = adapter.stats.txPackets
  txBytes : next.stats.txBytes = adapter.stats.txBytes
  txDropped : next.stats.txDropped = adapter.stats.txDropped

theorem SameRx.refl (adapter : Adapter Emulated) : adapter.SameRx adapter :=
  ⟨Emulated.SameRx.refl _, rfl, rfl, rfl, rfl, rfl, rfl, rfl⟩

theorem SameTx.refl (adapter : Adapter Emulated) : adapter.SameTx adapter :=
  ⟨Emulated.SameTx.refl _, rfl, rfl, rfl, rfl, rfl⟩

theorem SameTx.trans {a b c : Adapter Emulated} (h : a.SameTx b) (h' : b.SameTx c) : a.SameTx c :=
  ⟨h.card.trans h'.card, h'.mac.trans h.mac, h'.tx.trans h.tx, h'.txPackets.trans h.txPackets,
    h'.txBytes.trans h.txBytes, h'.txDropped.trans h.txDropped⟩

/-- A transmission, taken or refused, leaves the receive side alone. -/
theorem sameRx_transmit (adapter : Adapter Emulated) (frame : Bytes) :
    adapter.SameRx (adapter.transmit frame).value.2 := by
  simp only [transmit]
  split
  · exact ⟨Emulated.SameRx.refl _, rfl, rfl, rfl, rfl, rfl, rfl, rfl⟩
  · split
    · exact ⟨Emulated.sameRx_write_tdt _ _ _, rfl, rfl, rfl, rfl, rfl, rfl, rfl⟩
    · exact ⟨Emulated.SameRx.refl _, rfl, rfl, rfl, rfl, rfl, rfl, rfl⟩

/-- Answering a frame leaves the receive side alone. -/
theorem sameRx_handle (responder : Responder) (adapter : Adapter Emulated) (frame : Bytes) :
    adapter.SameRx (responder.handle adapter frame).value.2 := by
  simp only [Responder.handle]
  split
  · exact SameRx.refl adapter
  · split
    · exact adapter.sameRx_transmit _
    · exact SameRx.refl adapter

/-- A look at the next slot leaves the transmit side alone. -/
theorem sameTx_poll (adapter : Adapter Emulated) : adapter.SameTx adapter.poll.value.2 := by
  simp only [poll]
  split
  · simp only [Logged.value_bind]
    split
    · exact ⟨⟨rfl, rfl, rfl, rfl, rfl, rfl⟩, rfl, rfl, rfl, rfl, rfl⟩
    · exact ⟨⟨rfl, rfl, rfl, rfl, rfl, rfl⟩, rfl, rfl, rfl, rfl, rfl⟩
  · exact SameTx.refl adapter

/-- Taking a frame leaves the transmit side alone. -/
theorem sameTx_waitFrame (adapter : Adapter Emulated) (stop : Stop) :
    adapter.SameTx (adapter.waitFrame stop).value.2.2 := by
  fun_induction waitFrame adapter stop with
  | case1 adapter _ _ => exact SameTx.refl adapter
  | case2 adapter _ _ _ _ _ => exact SameTx.refl adapter
  | case3 adapter _ _ _ _ next hpoll =>
    have h := adapter.sameTx_poll
    rw [hpoll] at h
    exact h
  | case4 adapter _ _ _ next hpoll _ ih =>
    have h := adapter.sameTx_poll
    rw [hpoll] at h
    exact h.trans ih

/-- An answered interrupt leaves the transmit side alone. -/
theorem sameTx_interrupt (adapter : Adapter Emulated) :
    adapter.SameTx adapter.interrupt.value :=
  ⟨⟨rfl, rfl, rfl, rfl, rfl, rfl⟩, rfl, rfl, rfl, rfl, rfl⟩

/-- Waking the callers leaves the transmit side alone. -/
theorem sameTx_wake (adapter : Adapter Emulated) : adapter.SameTx adapter.wake :=
  ⟨Emulated.SameTx.refl _, rfl, rfl, rfl, rfl, rfl⟩

end Adapter

end NetStack
