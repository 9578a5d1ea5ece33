import NetStack.Proofs.TransmitLaw

/-!
# What becomes of received frames

Every frame that comes in and is not dropped is at each moment either returned to a caller or stored
in the ring, in the order of arrival and byte for byte (`ReceiveLaw.frames`). `ReceiveHistory` is
the invariant: the ring is linked to the card, and the frames and counters agree with the journal.
`ReceiveHistory.step` preserves it along every move, and `receiveLaw_run` states what it means, from
setting up on. As with transmission, the counters fit their 64 bits for `2 ^ 52` moves
(`ReceiveLaw.fits`).
-/

namespace NetStack.Driver

/-- The frames that came in and were not dropped, in order. -/
def arrived (past : List Event) : List Bytes :=
  past.filterMap Event.arrived?

/-- The frames that were returned to callers, in order. -/
def returned (past : List Event) : List Bytes :=
  past.filterMap Event.returned?

theorem arrived_snoc (past : List Event) (event : Event) :
    arrived (past ++ [event]) = arrived past ++ event.arrived?.toList :=
  Moment.filterMap_snoc _ past event

theorem returned_snoc (past : List Event) (event : Event) :
    returned (past ++ [event]) = returned past ++ event.returned?.toList :=
  Moment.filterMap_snoc _ past event

/-- A move in which no frame comes in leaves the arrived ones as they are. -/
theorem arrived_of_none (past : List Event) {event : Event} (h : event.arrived? = none) :
    arrived (past ++ [event]) = arrived past :=
  Moment.filterMap_of_none past h

/-- A move that returns no frame leaves the returned ones as they are. -/
theorem returned_of_none (past : List Event) {event : Event} (h : event.returned? = none) :
    returned (past ++ [event]) = returned past :=
  Moment.filterMap_of_none past h

/-- The receive ring is linked to the card, and the frames and counters agree with what happened.
-/
structure ReceiveHistory (past : List Event) (adapter : Adapter Emulated) : Prop where
  linked : adapter.RxLinked
  frames : arrived past = returned past ++ adapter.stored
  rxPackets : adapter.stats.rxPackets = (returned past).length
  rxBytes : adapter.stats.rxBytes = totalLength (returned past)
  rxDropped : adapter.stats.rxDropped = 0
  length_le : ∀ frame ∈ arrived past, frame.length ≤ Host.rxBufferSize

/-- What was returned fits a buffer, as it did when it came in. -/
theorem ReceiveHistory.length_returned_le {past : List Event} {adapter : Adapter Emulated}
    (h : ReceiveHistory past adapter) :
    ∀ frame ∈ returned past, frame.length ≤ Host.rxBufferSize := by
  intro frame hmem
  refine h.length_le frame ?_
  rw [h.frames]
  exact List.mem_append_left _ hmem

/-- Nothing has happened to a driver that was just set up. -/
theorem ReceiveHistory.start {adapter : Adapter Emulated} (h : adapter.SetUp) :
    ReceiveHistory [] adapter := by
  refine ⟨h.rxLinked, h.stored.symm, ?_, ?_, ?_, List.forall_mem_nil _⟩
  all_goals
    rw [h.stats]
    rfl

/-- A move that keeps the stored frames, and is none that the journal counts, keeps the history. -/
theorem ReceiveHistory.quiet {past : List Event} {event : Event}
    (h : ReceiveHistory past event.before) (hlinked : event.after.RxLinked)
    (hstored : event.after.stored = event.before.stored)
    (hrxPackets : event.after.stats.rxPackets = event.before.stats.rxPackets)
    (hrxBytes : event.after.stats.rxBytes = event.before.stats.rxBytes)
    (hrxDropped : event.after.stats.rxDropped = event.before.stats.rxDropped)
    (harrived : event.arrived? = none) (hreturned : event.returned? = none) :
    ReceiveHistory (past ++ [event]) event.after := by
  have harrived' := arrived_of_none past harrived
  have hreturned' := returned_of_none past hreturned
  refine ⟨hlinked, ?_, ?_, ?_, ?_, ?_⟩
  · rw [harrived', hreturned', hstored]
    exact h.frames
  · rw [hreturned', hrxPackets]
    exact h.rxPackets
  · rw [hreturned', hrxBytes]
    exact h.rxBytes
  · rw [hrxDropped]
    exact h.rxDropped
  · rw [harrived']
    exact h.length_le

/-- A move that leaves the receive side alone, and is none that the journal counts, keeps the
history. -/
theorem ReceiveHistory.sameRx {past : List Event} {event : Event}
    (h : ReceiveHistory past event.before) (hsame : event.before.SameRx event.after)
    (harrived : event.arrived? = none) (hreturned : event.returned? = none) :
    ReceiveHistory (past ++ [event]) event.after :=
  h.quiet (h.linked.of_sameRx hsame) hsame.stored_eq hsame.rxPackets hsame.rxBytes hsame.rxDropped
    harrived hreturned

/-- A frame from the line, whether it is dropped or not, keeps the history. -/
theorem ReceiveHistory.inject {past : List Event} {adapter next : Adapter Emulated}
    {outcome : Outcome} (h : ReceiveHistory past adapter) {frame : Bytes}
    (hact : (act (.inject frame) adapter).value = (outcome, next)) :
    ReceiveHistory (past ++ [⟨adapter, .act (.inject frame) outcome, next⟩]) next := by
  by_cases htaken : frame.length ≤ Host.rxBufferSize ∧
      adapter.bus.filled adapter.last + 1 < Host.rxRingSize
  · have hvalue := Emulated.RxLinked.inject_of_room h.linked htaken.1 htaken.2
    have hstored := adapter.bus.stored_arrived adapter.rx adapter.last htaken.1 htaken.2
    simp only [Driver.act, handle, Device.control, Emulated.control, Logged.value_bind, hvalue]
      at hact
    cases hact
    refine ⟨Emulated.RxLinked.arrived h.linked htaken.1 htaken.2, ?_, ?_, ?_, h.rxDropped, ?_⟩
    · rw [arrived_snoc, returned_of_none past rfl, h.frames, List.append_assoc]
      exact congrArg (returned past ++ ·) hstored.symm
    · rw [returned_of_none past rfl]
      exact h.rxPackets
    · rw [returned_of_none past rfl]
      exact h.rxBytes
    · rw [arrived_snoc]
      exact List.forall_mem_append.2 ⟨h.length_le, List.forall_mem_singleton.2 htaken.1⟩
  · have hvalue := Emulated.RxLinked.inject_of_refused h.linked htaken
    simp only [Driver.act, handle, Device.control, Emulated.control, Logged.value_bind, hvalue]
      at hact
    cases hact
    exact h.sameRx (Adapter.SameRx.refl adapter) rfl rfl

/-- Every operation keeps the history. -/
theorem ReceiveHistory.act {past : List Event} {adapter next : Adapter Emulated}
    {operation : Operation} {outcome : Outcome} (h : ReceiveHistory past adapter)
    (hact : (act operation adapter).value = (outcome, next)) :
    ReceiveHistory (past ++ [⟨adapter, .act operation outcome, next⟩]) next := by
  cases operation with
  | transmit frame =>
    cases hact
    exact h.sameRx (adapter.sameRx_transmit frame) rfl rfl
  | complete count =>
    cases hact
    exact h.sameRx ⟨Emulated.sameRx_complete _ _ _, rfl, rfl, rfl, rfl, rfl, rfl, rfl⟩ rfl rfl
  | autoComplete on =>
    cases hact
    exact h.sameRx ⟨⟨rfl, rfl, rfl, rfl, rfl⟩, rfl, rfl, rfl, rfl, rfl, rfl, rfl⟩ rfl rfl
  | takeSent =>
    cases hact
    exact h.sameRx ⟨⟨rfl, rfl, rfl, rfl, rfl⟩, rfl, rfl, rfl, rfl, rfl, rfl, rfl⟩ rfl rfl
  | inject frame => exact h.inject hact
  | interrupt =>
    obtain ⟨hlinked, hstored⟩ := h.linked.interrupt
    cases hact
    exact h.quiet hlinked hstored rfl rfl rfl rfl rfl
  | wake =>
    cases hact
    exact h.quiet h.linked rfl rfl rfl rfl rfl rfl

/-- A caller that finds no frame, or finds one and takes it, keeps the history. -/
theorem ReceiveHistory.await {past : List Event} {adapter next : Adapter Emulated} {stop : Stop}
    {attempt : Attempt Outcome Stop} {move : Move Operation Stop Stop Outcome}
    (h : ReceiveHistory past adapter)
    (hmove : move = .enter stop attempt ∨ move = .resume stop attempt)
    (hawait : (await stop adapter).value = (attempt, next)) :
    ReceiveHistory (past ++ [⟨adapter, move, next⟩]) next := by
  have harrived : Event.arrived? ⟨adapter, move, next⟩ = none := by
    rcases hmove with rfl | rfl <;> rfl
  rcases hwait : (adapter.waitFrame stop).value with ⟨progress, rest, after⟩
  simp only [Driver.await, Logged.value_bind, hwait] at hawait
  rcases h.linked.waitFrame_cases hwait with ⟨rfl, -, rfl⟩ | ⟨rfl, -, rfl, -⟩ |
    ⟨frame, rfl, -, htakes⟩
  · cases hawait
    refine h.sameRx (Adapter.SameRx.refl _) harrived ?_
    rcases hmove with rfl | rfl <;> rfl
  · cases hawait
    refine h.sameRx (Adapter.SameRx.refl _) harrived ?_
    rcases hmove with rfl | rfl <;> rfl
  · -- the oldest stored frame becomes the last returned one
    cases hawait
    have hreturned : Event.returned? ⟨adapter, move, next⟩ = some frame := by
      rcases hmove with rfl | rfl <;> rfl
    have hreturned' : returned (past ++ [⟨adapter, move, next⟩]) = returned past ++ [frame] := by
      rw [returned_snoc, hreturned]
      rfl
    refine ⟨htakes.linked, ?_, ?_, ?_, ?_, ?_⟩
    · rw [arrived_of_none past harrived, hreturned', h.frames, htakes.stored, List.append_assoc]
      rfl
    · rw [hreturned', htakes.stats, List.length_append, ← h.rxPackets]
      rfl
    · rw [hreturned', htakes.stats, totalLength_snoc, ← h.rxBytes]
    · rw [htakes.stats]
      exact h.rxDropped
    · rw [arrived_of_none past harrived]
      exact h.length_le

/-- Every move keeps the history. -/
theorem ReceiveHistory.step {past : List Event} {event : Event} {sleeping : List (Sleeper Stop)}
    (h : ReceiveHistory past event.before) (hlegal : system.Legal sleeping event) :
    ReceiveHistory (past ++ [event]) event.after := by
  obtain ⟨before, move, after⟩ := event
  rcases await_of_legal hlegal with ⟨operation, outcome, rfl, hact⟩ |
    ⟨stop, attempt, hmove, hawait⟩ | ⟨stop, rfl, hafter⟩
  · exact h.act hact
  · exact h.await hmove hawait
  · cases hafter
    exact h.sameRx (Adapter.SameRx.refl _) rfl rfl

/-- What holds of reception after everything that happened: the counters count it, and no frame is
lost, doubled, changed or overtaken. -/
structure ReceiveLaw (past : List Event) (adapter : Adapter Emulated) : Prop where
  /-- What was returned, and what the slots behind the last one taken hold up to the head, are the
  frames that came in. -/
  frames : arrived past = returned past ++ adapter.stored
  tail : adapter.bus.registers.rdt = Slot.toWord adapter.last
  /-- The done bit is set in exactly the slots that hold a stored frame. -/
  done_iff : ∀ slot : Fin Host.rxRingSize, adapter.rx.table[slot].done = true ↔
    ∃ k < adapter.bus.filled adapter.last, slot = Slot.ahead (Slot.next adapter.last) k
  /-- Every other slot reports nothing. -/
  status_of_not_done : ∀ slot : Fin Host.rxRingSize, adapter.rx.table[slot].done = false →
    adapter.rx.table[slot].status = 0
  /-- A frame is taken in if it fits a buffer and leaves a slot free. -/
  inject_iff : ∀ frame : Bytes,
    (adapter.bus.inject adapter.rx frame).value.1 = true ↔
      frame.length ≤ Host.rxBufferSize ∧ adapter.stored.length < Host.rxRingSize - 1
  rxPackets : adapter.stats.rxPackets = (returned past).length
  rxBytes : adapter.stats.rxBytes = totalLength (returned past)
  rxDropped : adapter.stats.rxDropped = 0
  /-- For `2 ^ 52` moves, the counters have room for what the next call can find in the ring. -/
  fits : past.length < 2 ^ 52 → adapter.stats.RxFits 1 Host.rxBufferSize Host.rxRingSize

/-- A slot that reports anything is one of the filled ones, and is done. -/
theorem rx_slot {adapter : Adapter Emulated} (h : adapter.RxLinked) (slot : Fin Host.rxRingSize) :
    ((∃ k < adapter.bus.filled adapter.last, slot = Slot.ahead (Slot.next adapter.last) k) ∧
      adapter.rx.table[slot].done = true) ∨
    ((¬∃ k < adapter.bus.filled adapter.last, slot = Slot.ahead (Slot.next adapter.last) k) ∧
      adapter.rx.table[slot].done = false ∧ adapter.rx.table[slot].status = 0) := by
  -- every slot is some places behind the one taken last, within one turn
  obtain ⟨k, hk, rfl⟩ := Slot.exists_ahead (Slot.next adapter.last) slot
  have hstatus := h.status k hk
  have hlt := adapter.bus.filled_lt adapter.last
  unfold RxDescriptor.done
  rw [Ring.getElem_table, hstatus]
  by_cases hfilled : k < adapter.bus.filled adapter.last
  · rw [if_pos hfilled]
    exact .inl ⟨⟨k, hfilled, rfl⟩, by decide⟩
  · rw [if_neg hfilled]
    refine .inr ⟨?_, by decide, rfl⟩
    rintro ⟨j, hj, heq⟩
    have hjk := (Slot.ahead_inj (Slot.next adapter.last) hk (by omega)).1 heq
    omega

/-- The history says it all. -/
theorem ReceiveHistory.law {past : List Event} {adapter : Adapter Emulated}
    (h : ReceiveHistory past adapter) : ReceiveLaw past adapter where
  frames := h.frames
  tail := h.linked.tail
  done_iff := by
    intro slot
    rcases rx_slot h.linked slot with ⟨hfilled, hdone⟩ | ⟨hfree, hdone, -⟩
    · exact iff_of_true hdone hfilled
    · exact iff_of_false (Bool.eq_false_iff.1 hdone) hfree
  status_of_not_done := by
    intro slot hnot
    rcases rx_slot h.linked slot with ⟨-, hdone⟩ | ⟨-, -, hstatus⟩
    · rw [hdone] at hnot
      cases hnot
    · exact hstatus
  inject_iff := by
    intro frame
    have hlength : adapter.stored.length = adapter.bus.filled adapter.last :=
      Slot.length_window _ _ _
    rw [hlength]
    by_cases htaken : frame.length ≤ Host.rxBufferSize ∧
        adapter.bus.filled adapter.last + 1 < Host.rxRingSize
    · rw [Emulated.RxLinked.inject_of_room h.linked htaken.1 htaken.2]
      exact iff_of_true rfl ⟨htaken.1, by omega⟩
    · rw [Emulated.RxLinked.inject_of_refused h.linked htaken]
      exact iff_of_false Bool.false_ne_true fun hroom => htaken ⟨hroom.1, by omega⟩
  rxPackets := h.rxPackets
  rxBytes := h.rxBytes
  rxDropped := h.rxDropped
  fits := by
    intro hmoves
    have hreturned : (returned past).length ≤ past.length := List.length_filterMap_le _ _
    have htotal : totalLength (returned past) ≤ (returned past).length * 2048 :=
      totalLength_le h.length_returned_le
    refine ⟨?_, ?_, ?_⟩
    · rw [h.rxPackets, UInt64.size]
      omega
    · rw [h.rxBytes, UInt64.size]
      show totalLength (returned past) + 2048 < _
      omega
    · rw [h.rxDropped]
      decide

/-- From setting up on, the law of reception holds at every moment of every run. -/
theorem receiveLaw_run (auto : Bool) (mac : Mac) (heap : Heap) :
    ∃ (adapter : Adapter Emulated) (rest : Heap),
      (Adapter.init (Emulated.start auto) mac heap).value = .ok (adapter, rest) ∧
      ∀ (steps : List (Step Operation Stop)) (moves : Nat),
        let past := (system.journalAll steps adapter).take moves
        ReceiveLaw past (System.stateAfter adapter past) := by
  obtain ⟨adapter, rest, hinit, hsetUp⟩ := Adapter.exists_init auto mac heap
  refine ⟨adapter, rest, hinit, fun steps moves => ?_⟩
  have hpath := System.journalAll_path (List.take_prefix moves (system.journalAll steps adapter))
  have hhistory := hpath.history ReceiveHistory (ReceiveHistory.start hsetUp)
    fun _ _ _ _ hlegal hbefore => hbefore.step hlegal
  exact hhistory.law

end NetStack.Driver
