import Mathlib.Algebra.Group.Action.Defs
import Mathlib.Algebra.Order.BigOperators.Group.List
import Mathlib.Algebra.Order.Ring.Nat
import NetStack.Proofs.Driver

/-!
# What becomes of transmitted frames

Every frame that the driver accepts is at each moment either taken from the line, or sent and not
yet taken, or outstanding in the ring, in the order of acceptance and byte for byte
(`TransmitLaw.frames`). `TransmitHistory` is the invariant: the ring is linked to the card, and the
frames and counters agree with the journal. `TransmitHistory.step` preserves it along every move,
and `transmitLaw_run` states what it means, from setting up on. A move adds at most the length of a
buffer to a counter, so that none of them outgrows its 64 bits within `2 ^ 52` moves
(`TransmitLaw.fits`).
-/

namespace NetStack.Driver

/-- The frames that were accepted for transmission, in order. -/
def accepted (past : List Event) : List Bytes :=
  past.filterMap Event.accepted?

/-- The sent frames that were taken from the line, in order. -/
def taken (past : List Event) : List Bytes :=
  past.flatMap Event.taken

/-- The number of frames that were refused for transmission. -/
def refusals (past : List Event) : Nat :=
  past.countP Event.isRefused

/-- The total length of frames. -/
def totalLength (frames : List Bytes) : Nat :=
  (frames.map List.length).sum

theorem accepted_snoc (past : List Event) (event : Event) :
    accepted (past ++ [event]) = accepted past ++ event.accepted?.toList :=
  Moment.filterMap_snoc _ past event

/-- A move that accepts no frame leaves the accepted ones as they are. -/
theorem accepted_of_none (past : List Event) {event : Event} (h : event.accepted? = none) :
    accepted (past ++ [event]) = accepted past :=
  Moment.filterMap_of_none past h

theorem taken_snoc (past : List Event) (event : Event) :
    taken (past ++ [event]) = taken past ++ event.taken := by
  simp [taken]

theorem refusals_snoc (past : List Event) (event : Event) :
    refusals (past ++ [event]) = refusals past + if event.isRefused then 1 else 0 := by
  rw [refusals, List.countP_append, List.countP_singleton]
  rfl

theorem totalLength_snoc (frames : List Bytes) (frame : Bytes) :
    totalLength (frames ++ [frame]) = totalLength frames + frame.length := by
  simp [totalLength]

/-- Frames that fit a buffer have a bounded total length. -/
theorem totalLength_le {frames : List Bytes} {bound : Nat}
    (h : ∀ frame ∈ frames, frame.length ≤ bound) : totalLength frames ≤ frames.length * bound := by
  have hsum := List.sum_le_card_nsmul (frames.map List.length) bound (List.forall_mem_map.2 h)
  rw [List.length_map, smul_eq_mul] at hsum
  exact hsum

/-- The transmit ring is linked to the card, and the frames and counters agree with what happened.
-/
structure TransmitHistory (past : List Event) (adapter : Adapter Emulated) : Prop where
  linked : adapter.TxLinked
  frames : taken past ++ (adapter.bus.sent ++ adapter.outstanding) = accepted past
  txPackets : adapter.stats.txPackets = (accepted past).length
  txBytes : adapter.stats.txBytes = totalLength (accepted past)
  txDropped : adapter.stats.txDropped = refusals past
  length_le : ∀ frame ∈ accepted past, frame.length ≤ Host.txBufferSize

/-- Nothing has happened to a driver that was just set up. -/
theorem TransmitHistory.start {adapter : Adapter Emulated} (h : adapter.SetUp) :
    TransmitHistory [] adapter := by
  refine ⟨h.txLinked, ?_, ?_, ?_, ?_, List.forall_mem_nil _⟩
  · rw [h.sent, h.outstanding]
    rfl
  all_goals
    rw [h.stats]
    rfl

/-- A move that keeps the frames on their way, and is none that the journal counts, keeps the
history. -/
theorem TransmitHistory.quiet {past : List Event} {event : Event}
    (h : TransmitHistory past event.before) (hlinked : event.after.TxLinked)
    (hframes : event.after.bus.sent ++ event.after.outstanding =
      event.before.bus.sent ++ event.before.outstanding)
    (htxPackets : event.after.stats.txPackets = event.before.stats.txPackets)
    (htxBytes : event.after.stats.txBytes = event.before.stats.txBytes)
    (htxDropped : event.after.stats.txDropped = event.before.stats.txDropped)
    (haccepted : event.accepted? = none) (htaken : event.taken = [])
    (hrefused : event.isRefused = false) :
    TransmitHistory (past ++ [event]) event.after := by
  have haccepted' := accepted_of_none past haccepted
  refine ⟨hlinked, ?_, ?_, ?_, ?_, ?_⟩
  · rw [taken_snoc, htaken, List.append_nil, hframes, haccepted']
    exact h.frames
  · rw [htxPackets, haccepted']
    exact h.txPackets
  · rw [htxBytes, haccepted']
    exact h.txBytes
  · rw [htxDropped, refusals_snoc, hrefused]
    exact h.txDropped
  · rw [haccepted']
    exact h.length_le

/-- A move that leaves the transmit side alone, and is none that the journal counts, keeps the
history. -/
theorem TransmitHistory.sameTx {past : List Event} {event : Event}
    (h : TransmitHistory past event.before) (hsame : event.before.SameTx event.after)
    (haccepted : event.accepted? = none) (htaken : event.taken = [])
    (hrefused : event.isRefused = false) :
    TransmitHistory (past ++ [event]) event.after :=
  h.quiet (h.linked.of_sameTx hsame) hsame.frames_eq hsame.txPackets hsame.txBytes
    hsame.txDropped haccepted htaken hrefused

/-- A refused frame is counted. -/
theorem TransmitHistory.refused {past : List Event} {adapter : Adapter Emulated}
    (h : TransmitHistory past adapter) (frame : Bytes) (error : TransmitError) :
    TransmitHistory
      (past ++ [⟨adapter, .act (.transmit frame) (.sent (.error error)), adapter.countTxDropped⟩])
      adapter.countTxDropped := by
  refine ⟨h.linked, ?_, ?_, ?_, ?_, ?_⟩
  · rw [accepted_of_none past rfl, taken_snoc]
    exact (congrArg (· ++ _) (List.append_nil _)).trans h.frames
  · rw [accepted_of_none past rfl]
    exact h.txPackets
  · rw [accepted_of_none past rfl]
    exact h.txBytes
  · rw [refusals_snoc]
    exact congrArg (· + 1) h.txDropped
  · rw [accepted_of_none past rfl]
    exact h.length_le

/-- A transmission, whatever comes of it, keeps the history. -/
theorem TransmitHistory.transmit {past : List Event} {adapter next : Adapter Emulated}
    {outcome : Except TransmitError Unit} (h : TransmitHistory past adapter) {frame : Bytes}
    (htransmit : (adapter.transmit frame).value = (outcome, next)) :
    TransmitHistory (past ++ [⟨adapter, .act (.transmit frame) (.sent outcome), next⟩]) next := by
  cases h.linked.transmit_spec htransmit with
  | tooLong => exact h.refused frame _
  | full => exact h.refused frame _
  | taken _ hlinked hframes hstats =>
    -- the frame comes behind all that was accepted before, and the journal puts it there too
    refine ⟨hlinked, ?_, ?_, ?_, ?_, ?_⟩
    · rw [taken_snoc, accepted_snoc, hframes, ← h.frames]
      simp [Event.taken, Event.accepted?]
    · rw [accepted_snoc, hstats]
      simp [Event.accepted?, h.txPackets]
    · rw [accepted_snoc, hstats]
      show adapter.stats.txBytes + frame.length = totalLength (accepted past ++ [frame])
      rw [totalLength_snoc, h.txBytes]
    · rw [refusals_snoc, hstats]
      exact h.txDropped
    · rw [accepted_snoc]
      exact List.forall_mem_append.2
        ⟨h.length_le, List.forall_mem_singleton.2 (Adapter.length_of_transmit htransmit)⟩

/-- Completing transmissions keeps the history. -/
theorem TransmitHistory.complete {past : List Event} {adapter next : Adapter Emulated}
    {outcome : Outcome} (h : TransmitHistory past adapter) {count : Nat}
    (hact : (act (.complete count) adapter).value = (outcome, next)) :
    TransmitHistory (past ++ [⟨adapter, .act (.complete count) outcome, next⟩]) next := by
  obtain ⟨-, hsends⟩ := Emulated.TxLinked.sends_complete h.linked count
  cases hact
  exact h.quiet hsends.linked hsends.sent_append rfl rfl rfl rfl rfl rfl

/-- Taking the sent frames from the line keeps the history. -/
theorem TransmitHistory.takeSent {past : List Event} {adapter next : Adapter Emulated}
    {outcome : Outcome} (h : TransmitHistory past adapter)
    (hact : (act .takeSent adapter).value = (outcome, next)) :
    TransmitHistory (past ++ [⟨adapter, .act .takeSent outcome, next⟩]) next := by
  cases hact
  refine ⟨Emulated.TxLinked.of_line h.linked _ _, ?_, ?_, ?_, ?_, ?_⟩
  · rw [accepted_of_none past rfl, taken_snoc, List.append_assoc]
    exact h.frames
  · rw [accepted_of_none past rfl]
    exact h.txPackets
  · rw [accepted_of_none past rfl]
    exact h.txBytes
  · rw [refusals_snoc]
    exact h.txDropped
  · rw [accepted_of_none past rfl]
    exact h.length_le

/-- Every operation keeps the history. -/
theorem TransmitHistory.act {past : List Event} {adapter next : Adapter Emulated}
    {operation : Operation} {outcome : Outcome} (h : TransmitHistory past adapter)
    (hact : (act operation adapter).value = (outcome, next)) :
    TransmitHistory (past ++ [⟨adapter, .act operation outcome, next⟩]) next := by
  cases operation with
  | transmit frame =>
    rcases htransmit : (adapter.transmit frame).value with ⟨sent, after⟩
    simp only [Driver.act, Logged.value_bind, htransmit] at hact
    cases hact
    exact h.transmit htransmit
  | complete count => exact h.complete hact
  | autoComplete on =>
    cases hact
    exact h.quiet (Emulated.TxLinked.of_line h.linked _ _) rfl rfl rfl rfl rfl rfl rfl
  | takeSent => exact h.takeSent hact
  | inject frame =>
    cases hact
    exact h.sameTx ⟨Emulated.sameTx_inject _ _ _, rfl, rfl, rfl, rfl, rfl⟩ rfl rfl rfl
  | interrupt =>
    cases hact
    exact h.sameTx adapter.sameTx_interrupt rfl rfl rfl
  | wake =>
    cases hact
    exact h.sameTx adapter.sameTx_wake rfl rfl rfl

/-- Every move keeps the history. -/
theorem TransmitHistory.step {past : List Event} {event : Event} {sleeping : List (Sleeper Stop)}
    (h : TransmitHistory past event.before) (hlegal : system.Legal sleeping event) :
    TransmitHistory (past ++ [event]) event.after := by
  obtain ⟨before, move, after⟩ := event
  rcases await_of_legal hlegal with ⟨operation, outcome, rfl, hact⟩ |
    ⟨stop, attempt, hmove, hawait⟩ | ⟨stop, rfl, hafter⟩
  · exact h.act hact
  · have hsame : before.SameTx after := by
      have hsame := sameTx_await stop before
      rw [hawait] at hsame
      exact hsame
    rcases hmove with rfl | rfl <;> exact h.sameTx hsame rfl rfl rfl
  · cases hafter
    exact h.sameTx (Adapter.SameTx.refl _) rfl rfl rfl

/-- What holds of transmission after everything that happened: the counters count it, no frame is
lost, doubled, changed or overtaken, and it depends only on the number of pending descriptors
whether a frame is taken. -/
structure TransmitLaw (past : List Event) (adapter : Adapter Emulated) : Prop where
  /-- What was taken from the line, what was sent and not yet taken, and what the pending slots from
  the head on hold are the accepted frames. -/
  frames : taken past ++ adapter.bus.sent ++ adapter.outstanding = accepted past
  tail : adapter.bus.registers.tdt.toNat =
    (adapter.bus.registers.tdh.toNat + adapter.bus.pending) % Host.txRingSize
  pending_le : adapter.bus.pending ≤ Host.txRingSize
  /-- The done bit is clear in exactly the pending slots. -/
  not_done_iff : ∀ slot : Fin Host.txRingSize, adapter.tx.table[slot].done = false ↔
    ∃ k < adapter.bus.pending, slot = Slot.ahead adapter.bus.txHead k
  /-- A frame that fits is refused exactly when all descriptors are pending. -/
  ringFull_iff : ∀ frame : Bytes, frame.length ≤ Host.txBufferSize →
    ((adapter.transmit frame).value.1 = .error .ringFull ↔
      adapter.bus.pending = Host.txRingSize)
  /-- A frame that fits is refused for no other reason. -/
  ok_of_room : ∀ frame : Bytes, frame.length ≤ Host.txBufferSize →
    adapter.bus.pending ≠ Host.txRingSize → (adapter.transmit frame).value.1 = .ok ()
  /-- A frame that does not fit is always refused. -/
  frameTooLarge : ∀ frame : Bytes, Host.txBufferSize < frame.length →
    (adapter.transmit frame).value.1 = .error (.frameTooLarge frame.length Host.txBufferSize)
  /-- A refusal changes nothing but its counter. -/
  refused : ∀ (frame : Bytes) (error : TransmitError),
    (adapter.transmit frame).value.1 = .error error →
    (adapter.transmit frame).value.2 = adapter.countTxDropped
  txPackets : adapter.stats.txPackets = (accepted past).length
  txBytes : adapter.stats.txBytes = totalLength (accepted past)
  txDropped : adapter.stats.txDropped = refusals past
  /-- For `2 ^ 52` moves, the counters have room for the next frame. -/
  fits : past.length < 2 ^ 52 → adapter.stats.TxFits 1 Host.txBufferSize 1

/-- The tail is as far behind the head as descriptors are pending. -/
theorem toNat_tdt {adapter : Adapter Emulated} (h : adapter.TxLinked) :
    adapter.bus.registers.tdt.toNat =
      (adapter.bus.registers.tdh.toNat + adapter.bus.pending) % Host.txRingSize := by
  rw [h.tail, Slot.toNat_toWord _ (by decide)]
  show (adapter.bus.registers.tdh.toNat % Host.txRingSize + adapter.bus.pending) %
    Host.txRingSize = _
  rw [Nat.mod_add_mod]

/-- The done bit is clear in exactly the pending slots. -/
theorem done_eq_false_iff {adapter : Adapter Emulated} (h : adapter.TxLinked)
    (slot : Fin Host.txRingSize) : adapter.tx.table[slot].done = false ↔
      ∃ k < adapter.bus.pending, slot = Slot.ahead adapter.bus.txHead k := by
  -- every slot is some places behind the head, within one turn
  obtain ⟨k, hk, rfl⟩ := Slot.exists_ahead adapter.bus.txHead slot
  have hdone := h.done_iff k hk
  have hle := h.pending_le
  rw [Ring.getElem_table, Bool.eq_false_iff, ne_eq, hdone]
  constructor
  · intro hpending
    exact ⟨k, by omega, rfl⟩
  · rintro ⟨j, hj, heq⟩
    have hjk := (Slot.ahead_inj adapter.bus.txHead hk (by omega)).1 heq
    omega

/-- The history says it all. -/
theorem TransmitHistory.law {past : List Event} {adapter : Adapter Emulated}
    (h : TransmitHistory past adapter) : TransmitLaw past adapter where
  frames := by
    rw [List.append_assoc]
    exact h.frames
  tail := toNat_tdt h.linked
  pending_le := h.linked.pending_le
  not_done_iff := done_eq_false_iff h.linked
  ringFull_iff := by
    intro frame hfits
    rcases Nat.lt_or_eq_of_le h.linked.pending_le with hroom | hfull
    · obtain ⟨next, hvalue, -⟩ := h.linked.exists_transmit hfits hroom
      rw [hvalue]
      exact iff_of_false (by simp) (Nat.ne_of_lt hroom)
    · rw [h.linked.transmit_of_full hfits hfull]
      exact iff_of_true rfl hfull
  ok_of_room := by
    intro frame hfits hroom
    obtain ⟨next, hvalue, -⟩ :=
      h.linked.exists_transmit hfits (Nat.lt_of_le_of_ne h.linked.pending_le hroom)
    rw [hvalue]
  frameTooLarge := by
    intro frame hlong
    rw [adapter.transmit_of_tooLong hlong]
  refused := by
    intro frame error herror
    rcases hvalue : (adapter.transmit frame).value with ⟨outcome, next⟩
    rw [hvalue] at herror
    cases h.linked.transmit_spec hvalue with
    | tooLong => rfl
    | full => rfl
    | taken => cases herror
  txPackets := h.txPackets
  txBytes := h.txBytes
  txDropped := h.txDropped
  fits := by
    intro hmoves
    have haccepted : (accepted past).length ≤ past.length := List.length_filterMap_le _ _
    have hrefused : refusals past ≤ past.length := List.countP_le_length
    have htotal : totalLength (accepted past) ≤ (accepted past).length * 1518 :=
      totalLength_le h.length_le
    refine ⟨?_, ?_, ?_⟩
    · rw [h.txPackets, UInt64.size]
      omega
    · rw [h.txBytes, UInt64.size]
      show totalLength (accepted past) + 1518 < _
      omega
    · rw [h.txDropped, UInt64.size]
      omega

/-- From setting up on, the law of transmission holds at every moment of every run. -/
theorem transmitLaw_run (auto : Bool) (mac : Mac) (heap : Heap) :
    ∃ (adapter : Adapter Emulated) (rest : Heap),
      (Adapter.init (Emulated.start auto) mac heap).value = .ok (adapter, rest) ∧
      ∀ (steps : List (Step Operation Stop)) (moves : Nat),
        let past := (system.journalAll steps adapter).take moves
        TransmitLaw past (System.stateAfter adapter past) := by
  obtain ⟨adapter, rest, hinit, hsetUp⟩ := Adapter.exists_init auto mac heap
  refine ⟨adapter, rest, hinit, fun steps moves => ?_⟩
  have hpath := System.journalAll_path (List.take_prefix moves (system.journalAll steps adapter))
  have hhistory := hpath.history TransmitHistory (TransmitHistory.start hsetUp)
    fun _ _ _ _ hlegal hbefore => hbefore.step hlegal
  exact hhistory.law

end NetStack.Driver
