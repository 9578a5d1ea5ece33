import NetStack.Proofs.Rings
import NetStack.Proofs.Sides

/-!
# The receive ring as a queue

Three cursors go around the receive ring: the card's head, the tail that the driver writes, and the
slot that the driver took last. `RxLinked` ties them to the descriptors' status: the slots behind
the last one taken, up to the head, hold a frame each, and all others wait for one. `stored` reads
the ring as the queue of these frames. One slot is never filled, so that a full ring is told from an
empty one.

`RxLinked.inject_of_room` and `RxLinked.inject_of_refused` are the two outcomes of a frame that
comes in. Taking frames never meets an overlong one: `waitFrame_of_ask_none`,
`RxLinked.waitFrame_of_empty` and `RxLinked.exists_waitFrame` are its outcomes.
-/

namespace NetStack

/-- As many bytes as are asked for are at the start of a buffer that is long enough. -/
theorem Buffer.length_first {size : Nat} (buffer : Buffer size) {count : Nat} (h : count ≤ size) :
    (buffer.first count).length = count := by
  unfold first
  rw [List.length_take, buffer.length_bytes, Nat.min_eq_left h]

/-- The length that a delivered descriptor announces. -/
theorem RxDescriptor.length_deliver (descriptor : RxDescriptor) {length : Nat}
    (h : length ≤ Host.rxBufferSize) : (descriptor.deliver length).length.toNat = length := by
  have hsize : length < 65536 := Nat.lt_of_le_of_lt h (by decide)
  exact UInt16.toNat_ofNat_of_lt' hsize

namespace Emulated

/-- The slot at the receive head. -/
def rxHead (card : Emulated) : Fin Host.rxRingSize :=
  Slot.wrap card.registers.rdh Host.rxRingSize_pos

/-- The number of slots behind the last one taken that hold a frame. -/
def filled (card : Emulated) (last : Fin Host.rxRingSize) : Nat :=
  Slot.distance (Slot.next last) card.rxHead

/-- The frames that came in and were not yet taken, oldest first. -/
def stored (card : Emulated) (rx : RxRing) (last : Fin Host.rxRingSize) : List Bytes :=
  Slot.window (rx.held RxDescriptor.length) (Slot.next last) (card.filled last)

/-- What ties the receive registers, the slot that was taken last and the descriptors together. -/
structure RxLinked (card : Emulated) (rx : RxRing) (last : Fin Host.rxRingSize) : Prop where
  /-- The card knows the size of the ring. -/
  slots : card.registers.rxSlots = Host.rxRingSize
  /-- The receiver is on. -/
  enabled : card.registers.rctl &&& Bits.rxEnable ≠ 0
  /-- The tail is the slot that was taken last. -/
  tail : card.registers.rdt = Slot.toWord last
  /-- Every descriptor points to its own buffer. -/
  pointed : rx.Pointed
  /-- The filled slots report a whole frame, and the others nothing. -/
  status : ∀ k < Host.rxRingSize, (rx.descriptor (Slot.ahead (Slot.next last) k)).status =
    if k < card.filled last then Bits.statusDone ||| Bits.statusEndOfPacket else 0
  /-- No frame is longer than its buffer. -/
  fits : ∀ k < card.filled last,
    (rx.descriptor (Slot.ahead (Slot.next last) k)).length.toNat ≤ Host.rxBufferSize

/-- An untouched receive side has as many slots filled. -/
theorem SameRx.filled_eq {card next : Emulated} (h : card.SameRx next)
    (last : Fin Host.rxRingSize) : next.filled last = card.filled last := by
  unfold filled rxHead
  rw [h.rdh]

/-- An untouched receive side has the same frames stored. -/
theorem SameRx.stored_eq {card next : Emulated} (h : card.SameRx next) (rx : RxRing)
    (last : Fin Host.rxRingSize) : next.stored rx last = card.stored rx last := by
  unfold stored
  rw [h.filled_eq]

/-- An untouched receive side stays linked. -/
theorem RxLinked.of_sameRx {card next : Emulated} {rx : RxRing} {last : Fin Host.rxRingSize}
    (h : card.RxLinked rx last) (hsame : card.SameRx next) : next.RxLinked rx last where
  slots := by
    unfold Registers.rxSlots
    rw [hsame.rdlen]
    exact h.slots
  enabled := by
    rw [hsame.rctl]
    exact h.enabled
  tail := by
    rw [hsame.rdt]
    exact h.tail
  pointed := h.pointed
  status := by
    rw [hsame.filled_eq]
    exact h.status
  fits := by
    rw [hsame.filled_eq]
    exact h.fits

/-- One slot is left free. -/
theorem filled_lt (card : Emulated) (last : Fin Host.rxRingSize) :
    card.filled last < Host.rxRingSize :=
  Slot.distance_lt _ _

/-- The head is behind the filled slots. -/
theorem ahead_filled (card : Emulated) (last : Fin Host.rxRingSize) :
    Slot.ahead (Slot.next last) (card.filled last) = card.rxHead :=
  Slot.ahead_distance _ _

/-- The filled slots, and those behind the head, are not at the head. -/
theorem ahead_ne_rxHead (card : Emulated) (last : Fin Host.rxRingSize) {k : Nat}
    (hk : k < Host.rxRingSize) (hne : k ≠ card.filled last) :
    Slot.ahead (Slot.next last) k ≠ card.rxHead := by
  intro h
  rw [← card.ahead_filled last] at h
  exact hne ((Slot.ahead_inj _ hk (card.filled_lt last)).1 h)

/-- The head has met the tail when all slots but one are filled. -/
theorem rxHead_eq_iff (card : Emulated) (last : Fin Host.rxRingSize) :
    card.rxHead = last ↔ card.filled last + 1 = Host.rxRingSize := by
  -- the slot that was taken last is the furthest from the one behind it
  have hlast : Slot.ahead (Slot.next last) (Host.rxRingSize - 1) = last := by
    rw [Slot.ahead_next]
    exact Slot.ahead_size last
  have hlt := card.filled_lt last
  constructor
  · intro h
    have hfilled : card.filled last = Host.rxRingSize - 1 := by
      unfold filled
      rw [h]
      conv => lhs; arg 2; rw [← hlast]
      exact Slot.distance_ahead _ (by decide)
    omega
  · intro h
    rw [← card.ahead_filled last, show card.filled last = Host.rxRingSize - 1 by omega, hlast]

/-! ## Frames that come in -/

/-- The card after a frame went to the slot at its head. -/
def arrived (card : Emulated) : Emulated :=
  (card.setRegister .rdh (Slot.toWord (Slot.next card.rxHead))).raise Bits.causeReceived

/-- The receive ring with a frame put into a slot and announced to the driver. -/
def fillRx (rx : RxRing) (slot : Fin Host.rxRingSize) (frame : Bytes) : RxRing :=
  (rx.load slot frame).setDescriptor slot ((rx.descriptor slot).deliver frame.length)

/-- A linked card listens to frames that fit a buffer. -/
theorem RxLinked.listens {card : Emulated} {rx : RxRing} {last : Fin Host.rxRingSize}
    (h : card.RxLinked rx last) {frame : Bytes} (hfits : frame.length ≤ Host.rxBufferSize) :
    ¬(card.registers.rxSlots = 0 ∨ card.registers.rctl &&& Bits.rxEnable = 0 ∨
      Host.rxBufferSize < frame.length) := by
  rintro (hslots | henabled | hlong)
  · rw [h.slots] at hslots
    exact absurd hslots (by decide)
  · exact h.enabled henabled
  · exact Nat.not_lt.2 hfits hlong

/-- The tail as the card counts it. -/
theorem RxLinked.toNat_rdt {card : Emulated} {rx : RxRing} {last : Fin Host.rxRingSize}
    (h : card.RxLinked rx last) : card.registers.rdt.toNat % Host.rxRingSize = last.val := by
  rw [h.tail, Slot.toNat_toWord _ (by decide), Nat.mod_eq_of_lt last.isLt]

/-- A frame that fits goes to the slot at the head as long as that is not the last free one. -/
theorem RxLinked.inject_of_room {card : Emulated} {rx : RxRing} {last : Fin Host.rxRingSize}
    (h : card.RxLinked rx last) {frame : Bytes} (hfits : frame.length ≤ Host.rxBufferSize)
    (hroom : card.filled last + 1 < Host.rxRingSize) :
    (card.inject rx frame).value = (true, card.arrived, fillRx rx card.rxHead frame) := by
  have hhead : card.registers.rdh.toNat % Host.rxRingSize = card.rxHead.val := rfl
  have hne : ¬card.rxHead.val = last.val := by
    intro heq
    have hfull := (card.rxHead_eq_iff last).1 (Fin.ext heq)
    omega
  have hslot : rx.slotAt? (rx.descriptor card.rxHead).address = some card.rxHead :=
    h.pointed card.rxHead
  unfold inject
  simp only [if_neg (h.listens hfits)]
  simp only [h.slots, hhead, h.toNat_rdt, if_neg hne, Slot.ofNat?_val, Logged.value_bind,
    Logged.value_pure, hslot]
  rfl

/-- A frame that is too long, or finds no slot for it, changes nothing. -/
theorem RxLinked.inject_of_refused {card : Emulated} {rx : RxRing} {last : Fin Host.rxRingSize}
    (h : card.RxLinked rx last) {frame : Bytes}
    (hrefused : ¬(frame.length ≤ Host.rxBufferSize ∧ card.filled last + 1 < Host.rxRingSize)) :
    (card.inject rx frame).value = (false, card, rx) := by
  unfold inject
  rcases Nat.lt_or_ge Host.rxBufferSize frame.length with hlong | hfits
  · rw [if_pos (Or.inr (Or.inr hlong))]
    rfl
  · have hhead : card.registers.rdh.toNat % Host.rxRingSize = card.rxHead.val := rfl
    -- the frame fits, so it was refused for want of a slot
    have hmet : card.rxHead.val = last.val := by
      have hlt := card.filled_lt last
      have hfull : ¬card.filled last + 1 < Host.rxRingSize := fun hroom => hrefused ⟨hfits, hroom⟩
      rw [(card.rxHead_eq_iff last).2 (by omega)]
    simp only [if_neg (h.listens hfits)]
    simp only [h.slots, hhead, h.toNat_rdt, if_pos hmet]
    rfl

/-- A frame that came in fills one slot more. -/
theorem filled_arrived (card : Emulated) (last : Fin Host.rxRingSize)
    (hroom : card.filled last + 1 < Host.rxRingSize) :
    card.arrived.filled last = card.filled last + 1 := by
  have hhead : card.arrived.rxHead = Slot.ahead (Slot.next last) (card.filled last + 1) := by
    rw [← Slot.next_ahead, card.ahead_filled]
    exact Slot.wrap_toWord _ _ (by decide)
  unfold filled at hhead ⊢
  rw [hhead]
  exact Slot.distance_ahead _ hroom

/-- A card that took in a frame is linked to the ring that holds it. -/
theorem RxLinked.arrived {card : Emulated} {rx : RxRing} {last : Fin Host.rxRingSize}
    (h : card.RxLinked rx last) {frame : Bytes} (hfits : frame.length ≤ Host.rxBufferSize)
    (hroom : card.filled last + 1 < Host.rxRingSize) :
    card.arrived.RxLinked (fillRx rx card.rxHead frame) last where
  slots := h.slots
  enabled := h.enabled
  tail := h.tail
  pointed := (h.pointed.load _ _).setDescriptor rfl
  status := by
    intro k hk
    unfold fillRx
    rw [card.filled_arrived last hroom, Ring.descriptor_setDescriptor, Ring.descriptor_load]
    -- the slot at the head is announced, and counts as filled from now on
    by_cases hkf : k = card.filled last
    · rw [hkf, card.ahead_filled, if_pos rfl, if_pos (Nat.lt_succ_self _)]
      rfl
    · rw [if_neg (card.ahead_ne_rxHead last hk hkf), h.status k hk]
      by_cases hlt : k < card.filled last
      · rw [if_pos hlt, if_pos (by omega)]
      · rw [if_neg hlt, if_neg (by omega)]
  fits := by
    intro k hk
    rw [card.filled_arrived last hroom] at hk
    unfold fillRx
    rw [Ring.descriptor_setDescriptor, Ring.descriptor_load]
    by_cases hkf : k = card.filled last
    · rw [hkf, card.ahead_filled, if_pos rfl, RxDescriptor.length_deliver _ hfits]
      exact hfits
    · rw [if_neg (card.ahead_ne_rxHead last (by omega) hkf)]
      exact h.fits k (by omega)

/-- A frame that came in is the youngest of the stored ones. -/
theorem stored_arrived (card : Emulated) (rx : RxRing) (last : Fin Host.rxRingSize) {frame : Bytes}
    (hfits : frame.length ≤ Host.rxBufferSize)
    (hroom : card.filled last + 1 < Host.rxRingSize) :
    card.arrived.stored (fillRx rx card.rxHead frame) last = card.stored rx last ++ [frame] := by
  have hlast : (fillRx rx card.rxHead frame).held RxDescriptor.length card.rxHead = frame :=
    rx.held_fill_self _ _ hfits (RxDescriptor.length_deliver _ hfits)
  have hothers : Slot.window ((fillRx rx card.rxHead frame).held RxDescriptor.length)
      (Slot.next last) (card.filled last) = card.stored rx last := by
    apply Slot.window_congr
    intro k hk
    exact rx.held_fill_of_ne _ _ _ (card.ahead_ne_rxHead last (by omega) (Nat.ne_of_lt hk))
  unfold stored at hothers ⊢
  rw [card.filled_arrived last hroom, Slot.window_snoc, hothers, card.ahead_filled, hlast]

/-! ## Frames that are taken -/

/-- The card after the driver gave the slot behind the last one taken back to it. -/
def givenBack (card : Emulated) (last : Fin Host.rxRingSize) : Emulated :=
  card.setRegister .rdt (Slot.toWord (Slot.next last))

/-- A slot that was given back is one slot less that is filled. -/
theorem filled_givenBack (card : Emulated) (last : Fin Host.rxRingSize)
    (hfilled : 0 < card.filled last) :
    (card.givenBack last).filled (Slot.next last) = card.filled last - 1 := by
  have hlt := card.filled_lt last
  have hhead : (card.givenBack last).rxHead =
      Slot.ahead (Slot.next (Slot.next last)) (card.filled last - 1) := by
    -- the head stays where it is, and the slot from which it is counted moves on
    rw [Slot.ahead_next, Nat.sub_add_cancel hfilled, card.ahead_filled]
    rfl
  unfold filled at hhead hlt ⊢
  rw [hhead]
  exact Slot.distance_ahead _ (by omega)

/-- A card to which a taken slot was given back is linked to the ring in which that slot waits. -/
theorem RxLinked.givenBack {card : Emulated} {rx : RxRing} {last : Fin Host.rxRingSize}
    (h : card.RxLinked rx last) (hfilled : 0 < card.filled last) :
    (card.givenBack last).RxLinked (rx.rearm (Slot.next last)) (Slot.next last) where
  slots := h.slots
  enabled := h.enabled
  tail := rfl
  pointed := h.pointed.setDescriptor rfl
  status := by
    intro k hk
    have hlt := card.filled_lt last
    unfold RxRing.rearm
    rw [card.filled_givenBack last hfilled, Slot.ahead_next, Ring.descriptor_setDescriptor]
    rcases Nat.lt_or_ge (k + 1) Host.rxRingSize with hnear | hturn
    · rw [if_neg (Slot.ahead_ne_self _ hnear), h.status _ hnear]
      by_cases hkf : k < card.filled last - 1
      · rw [if_pos hkf, if_pos (by omega)]
      · rw [if_neg hkf, if_neg (by omega)]
    · -- the slot furthest from the new start is the one that was just given back
      have hlast : k + 1 = Host.rxRingSize := by omega
      rw [hlast, Slot.ahead_size, if_pos rfl, if_neg (by omega)]
      rfl
  fits := by
    intro k hk
    have hlt := card.filled_lt last
    rw [card.filled_givenBack last hfilled] at hk
    unfold RxRing.rearm
    rw [Slot.ahead_next, Ring.descriptor_setDescriptor,
      if_neg (Slot.ahead_ne_self _ (by omega))]
    exact h.fits _ (by omega)

/-- The frame behind the last slot taken is the oldest of the stored ones. -/
theorem stored_eq_cons (card : Emulated) (rx : RxRing) (last : Fin Host.rxRingSize)
    (hfilled : 0 < card.filled last) :
    card.stored rx last = rx.held RxDescriptor.length (Slot.next last) ::
      (card.givenBack last).stored (rx.rearm (Slot.next last)) (Slot.next last) := by
  have hlt := card.filled_lt last
  have hothers : Slot.window ((rx.rearm (Slot.next last)).held RxDescriptor.length)
      (Slot.next (Slot.next last)) (card.filled last - 1) =
      Slot.window (rx.held RxDescriptor.length) (Slot.next (Slot.next last))
        (card.filled last - 1) := by
    apply Slot.window_congr
    intro k hk
    rw [Slot.ahead_next]
    exact rx.held_setDescriptor_of_ne _ _ (Slot.ahead_ne_self _ (by omega))
  unfold stored
  rw [card.filled_givenBack last hfilled, hothers, ← Slot.window_succ, Nat.sub_add_cancel hfilled]

end Emulated

namespace Adapter

/-- The receive ring of a driver over the emulated card is linked to the card. -/
def RxLinked (adapter : Adapter Emulated) : Prop :=
  adapter.bus.RxLinked adapter.rx adapter.last

/-- The frames that came in and that the driver did not yet take, oldest first. -/
def stored (adapter : Adapter Emulated) : List Bytes :=
  adapter.bus.stored adapter.rx adapter.last

/-- No frame is stored if no slot is filled. -/
theorem stored_eq_nil_iff (adapter : Adapter Emulated) :
    adapter.stored = [] ↔ adapter.bus.filled adapter.last = 0 := by
  rw [← List.length_eq_zero_iff]
  unfold stored Emulated.stored
  rw [Slot.length_window]

/-- A driver with an untouched receive side stays linked. -/
theorem RxLinked.of_sameRx {adapter next : Adapter Emulated} (h : adapter.RxLinked)
    (hsame : adapter.SameRx next) : next.RxLinked := by
  unfold RxLinked
  rw [hsame.rx, hsame.last]
  exact Emulated.RxLinked.of_sameRx h hsame.card

/-- A driver with an untouched receive side has the same frames stored. -/
theorem SameRx.stored_eq {adapter next : Adapter Emulated} (h : adapter.SameRx next) :
    next.stored = adapter.stored := by
  unfold stored
  rw [h.rx, h.last]
  exact h.card.stored_eq _ _

/-- A driver before and after it took a frame from its ring. -/
structure Takes (frame : Bytes) (adapter next : Adapter Emulated) : Prop where
  linked : next.RxLinked
  stored : adapter.stored = frame :: next.stored
  icr : next.bus.registers.icr = adapter.bus.registers.icr
  mac : next.mac = adapter.mac
  arrival : next.arrival = adapter.arrival
  stats : next.stats = { adapter.stats with
    rxPackets := adapter.stats.rxPackets + 1
    rxBytes := adapter.stats.rxBytes + frame.length }

/-- Whether the slot behind the last one taken holds a frame. -/
theorem RxLinked.done_next {adapter : Adapter Emulated} (h : adapter.RxLinked) :
    (adapter.rx.descriptor (Slot.next adapter.last)).done = true ↔
      0 < adapter.bus.filled adapter.last := by
  have hstatus := h.status 0 (by decide)
  rw [Slot.ahead_zero] at hstatus
  unfold RxDescriptor.done
  rw [hstatus]
  by_cases hfilled : 0 < adapter.bus.filled adapter.last
  · rw [if_pos hfilled]
    exact iff_of_true (by decide) hfilled
  · rw [if_neg hfilled]
    exact iff_of_false (by decide) hfilled

/-- A look at an empty ring finds nothing. -/
theorem RxLinked.poll_of_empty {adapter : Adapter Emulated} (h : adapter.RxLinked)
    (hempty : adapter.stored = []) : adapter.poll.value = (.idle, adapter) := by
  have hdone : (adapter.rx.descriptor (Slot.next adapter.last)).done = false := by
    rw [Bool.eq_false_iff, ne_eq, h.done_next, adapter.stored_eq_nil_iff.1 hempty]
    decide
  simp only [poll, hdone]
  rfl

/-- A look at a ring that is not empty finds the oldest frame, and takes it. -/
theorem RxLinked.exists_poll {adapter : Adapter Emulated} (h : adapter.RxLinked)
    (hstored : adapter.stored ≠ []) :
    ∃ frame next, adapter.poll.value = (.frame frame, next) ∧ Takes frame adapter next := by
  have hfilled : 0 < adapter.bus.filled adapter.last :=
    Nat.pos_of_ne_zero fun hzero => hstored (adapter.stored_eq_nil_iff.2 hzero)
  have hdone : (adapter.rx.descriptor (Slot.next adapter.last)).done = true := h.done_next.2 hfilled
  -- the card announces no overlong frame, so the one that is found is not dropped
  have hfits : (adapter.rx.descriptor (Slot.next adapter.last)).length.toNat ≤
      Host.rxBufferSize := by
    have hfirst := h.fits 0 hfilled
    rw [Slot.ahead_zero] at hfirst
    exact hfirst
  have hlength := (adapter.rx.buffer (Slot.next adapter.last)).length_first hfits
  simp only [poll, hdone, if_true, Logged.value_bind, if_pos hfits]
  refine ⟨_, _, rfl, Emulated.RxLinked.givenBack h hfilled,
    adapter.bus.stored_eq_cons _ _ hfilled, rfl, rfl, rfl, ?_⟩
  rw [hlength]

/-- A look finds nothing, or takes the oldest frame. -/
theorem RxLinked.poll_cases {adapter next : Adapter Emulated} {found : Poll} (h : adapter.RxLinked)
    (hpoll : adapter.poll.value = (found, next)) :
    (found = .idle ∧ next = adapter) ∨
      ∃ frame, found = .frame frame ∧ Takes frame adapter next := by
  by_cases hstored : adapter.stored = []
  · rw [h.poll_of_empty hstored] at hpoll
    cases hpoll
    exact .inl ⟨rfl, rfl⟩
  · obtain ⟨frame, taken, htaken, htakes⟩ := h.exists_poll hstored
    rw [htaken] at hpoll
    cases hpoll
    exact .inr ⟨frame, rfl, htakes⟩

/-- The slot that is never filled holds no frame. -/
theorem RxLinked.ready_lt {adapter : Adapter Emulated} (h : adapter.RxLinked) :
    adapter.ready < Host.rxRingSize := by
  let free := Slot.ahead (Slot.next adapter.last) (Host.rxRingSize - 1)
  have hfilled : ¬ Host.rxRingSize - 1 < adapter.bus.filled adapter.last := by
    have hlt := adapter.bus.filled_lt adapter.last
    omega
  have hstatus : (adapter.rx.descriptor free).status = 0 := by
    rw [h.status (Host.rxRingSize - 1) (by decide), if_neg hfilled]
  refine Nat.lt_of_le_of_ne Vector.countP_le_size fun hall => ?_
  -- were all descriptors done, that slot's would be
  have hdone := Vector.countP_eq_size.1 hall (adapter.rx.descriptor free) (Vector.getElem_mem _)
  rw [RxDescriptor.done, hstatus] at hdone
  exact absurd hdone (by decide)

/-! What becomes of a caller, by what its look at the next slot finds. -/

section WaitFrame

variable {β : Type} [RegisterBus β]

/-- A caller who is out of patience leaves everything as it is. -/
theorem waitFrame_of_ask_none (adapter : Adapter β) {stop : Stop} (h : stop.ask = none) :
    (adapter.waitFrame stop).value = (.stopped, stop, adapter) := by
  unfold waitFrame
  rw [h]
  rfl

variable {adapter next : Adapter β} {stop rest : Stop}

/-- A patient caller who finds the slot with the card has to wait. -/
theorem waitFrame_of_idle (hask : stop.ask = some rest)
    (hpoll : adapter.poll.value = (.idle, next)) :
    (adapter.waitFrame stop).value = (.waiting, rest, adapter) := by
  unfold waitFrame
  rw [hask]
  simp only
  split <;> simp_all

/-- A patient caller who finds a frame takes it. -/
theorem waitFrame_of_frame {frame : Bytes} (hask : stop.ask = some rest)
    (hpoll : adapter.poll.value = (.frame frame, next)) :
    (adapter.waitFrame stop).value = (.done frame, rest, next) := by
  unfold waitFrame
  rw [hask]
  simp only
  split <;> simp_all

end WaitFrame

/-- Without a stored frame a patient caller has to wait. -/
theorem RxLinked.waitFrame_of_empty {adapter : Adapter Emulated} (h : adapter.RxLinked)
    {stop rest : Stop} (hask : stop.ask = some rest) (hempty : adapter.stored = []) :
    (adapter.waitFrame stop).value = (.waiting, rest, adapter) :=
  waitFrame_of_idle hask (h.poll_of_empty hempty)

/-- A patient caller takes the oldest of the stored frames. -/
theorem RxLinked.exists_waitFrame {adapter : Adapter Emulated} (h : adapter.RxLinked)
    {stop rest : Stop} (hask : stop.ask = some rest) (hstored : adapter.stored ≠ []) :
    ∃ frame next, (adapter.waitFrame stop).value = (.done frame, rest, next) ∧
      Takes frame adapter next := by
  obtain ⟨frame, next, hpoll, htakes⟩ := h.exists_poll hstored
  exact ⟨frame, next, waitFrame_of_frame hask hpoll, htakes⟩

/-- What becomes of a caller: it is out of patience, it has to wait since no frame is stored, or it
takes the oldest frame. -/
theorem RxLinked.waitFrame_cases {adapter next : Adapter Emulated} (h : adapter.RxLinked)
    {stop rest : Stop} {progress : Progress Bytes}
    (hvalue : (adapter.waitFrame stop).value = (progress, rest, next)) :
    (progress = .stopped ∧ stop.ask = none ∧ next = adapter) ∨
    (progress = .waiting ∧ stop.ask = some rest ∧ next = adapter ∧ adapter.stored = []) ∨
    (∃ frame, progress = .done frame ∧ stop.ask = some rest ∧ Takes frame adapter next) := by
  cases hask : stop.ask with
  | none =>
    rw [adapter.waitFrame_of_ask_none hask] at hvalue
    cases hvalue
    exact .inl ⟨rfl, rfl, rfl⟩
  | some left =>
    rcases Classical.em (adapter.stored = []) with hempty | hstored
    · rw [h.waitFrame_of_empty hask hempty] at hvalue
      cases hvalue
      exact .inr (.inl ⟨rfl, rfl, rfl, hempty⟩)
    · obtain ⟨frame, taken, htaken, htakes⟩ := h.exists_waitFrame hask hstored
      rw [htaken] at hvalue
      cases hvalue
      exact .inr (.inr ⟨frame, rfl, rfl, htakes⟩)

/-- A caller that has a frame took the oldest one. -/
theorem RxLinked.takes_of_done {adapter next : Adapter Emulated} (h : adapter.RxLinked)
    {stop rest : Stop} {frame : Bytes}
    (hvalue : (adapter.waitFrame stop).value = (.done frame, rest, next)) :
    stop.ask = some rest ∧ Takes frame adapter next := by
  rcases h.waitFrame_cases hvalue with ⟨hdone, -⟩ | ⟨hdone, -⟩ | ⟨frame', hdone, hask, htakes⟩
  · cases hdone
  · cases hdone
  · cases hdone
    exact ⟨hask, htakes⟩

/-- An answered interrupt moves no frame. -/
theorem RxLinked.interrupt {adapter : Adapter Emulated} (h : adapter.RxLinked) :
    adapter.interrupt.value.RxLinked ∧ adapter.interrupt.value.stored = adapter.stored :=
  ⟨⟨h.slots, h.enabled, h.tail, h.pointed, h.status, h.fits⟩, rfl⟩

end Adapter

end NetStack
