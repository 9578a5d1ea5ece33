import NetStack.Proofs.Receive
import NetStack.Proofs.Transmit

/-!
# A freshly set up card

What the driver's list of register writes leaves in a card after a reset. All writes but those of
the two transmit cursors only store a value, and the last write of a register counts
(`get_setAll`). `exists_init` says that setting up always succeeds, and what it ends in: a driver
whose rings are linked to its card, with no frame in either of them.
-/

namespace NetStack

namespace Registers

/-- The registers after some writes, first to last. -/
def setAll (registers : Registers) (writes : List (Reg × UInt32)) : Registers :=
  writes.foldl (fun registers write => registers.set write.2 write.1) registers

/-- Once registers are written one after another, a register holds its last written value. -/
theorem get_setAll (writes : List (Reg × UInt32)) (registers : Registers) (reg : Reg) :
    (registers.setAll writes).get reg =
      writes.foldl (fun value write => if reg = write.1 then write.2 else value)
        (registers.get reg) := by
  induction writes generalizing registers with
  | nil => rfl
  | cons write writes ih =>
    rw [List.foldl_cons, ← get_set]
    exact ih _

/-- A register that is not written keeps its value. -/
theorem get_setAll_of_notMem {writes : List (Reg × UInt32)} {reg : Reg}
    (h : reg ∉ writes.map Prod.fst) (registers : Registers) :
    (registers.setAll writes).get reg = registers.get reg := by
  induction writes generalizing registers with
  | nil => rfl
  | cons write writes ih =>
    rw [List.map_cons, List.mem_cons, not_or] at h
    show ((registers.set write.2 write.1).setAll writes).get reg = _
    rw [ih h.2, get_set, if_neg h.1]

/-- Sixteen bytes a descriptor, the length of the transmit table makes its slots. -/
theorem txSlots_of_tdlen {registers : Registers}
    (h : registers.tdlen = Ring.tableBytes Host.txRingSize) :
    registers.txSlots = Host.txRingSize := by
  unfold txSlots
  rw [h]
  decide

end Registers

/-- An unmoved transmit tail hands nothing over. -/
theorem Emulated.write_tdt_zero (card : Emulated) (tx : TxRing)
    (hslots : card.registers.txSlots = Host.txRingSize) (hpending : card.pending = 0)
    (htail : card.registers.tdt = 0) :
    (card.write tx .tdt 0).value = (card.setRegister .tdt 0, tx) := by
  have hfirst : card.registers.tdt = Slot.toWord (0 : Fin Host.txRingSize) := htail
  have hvalue := write_tdt_value 0 tx hslots hfirst
  rw [show Slot.distance (0 : Fin Host.txRingSize) 0 = 0 by decide, hpending] at hvalue
  refine hvalue.trans ?_
  obtain ⟨registers, pending, autoComplete, sent⟩ := card
  cases hpending
  split <;> rfl

namespace Adapter

/-- Writing registers in two goes is writing them in one. -/
theorem value_writeAll_append {β : Type} [RegisterBus β] (bus : β) (tx : TxRing)
    (first later : List (Reg × UInt32)) :
    (writeAll bus tx (first ++ later)).value =
      (writeAll (writeAll bus tx first).value.1 (writeAll bus tx first).value.2 later).value := by
  induction first generalizing bus tx with
  | nil => rfl
  | cons write first ih =>
    simp only [List.cons_append, writeAll, Logged.value_bind]
    exact ih _ _

/-- Writes that leave the transmit tail out only store values, except that a transmit head forgets
the pending descriptors. -/
theorem value_writeAll_of_notMem (card : Emulated) (tx : TxRing) (writes : List (Reg × UInt32))
    (htail : .tdt ∉ writes.map Prod.fst) :
    (writeAll card tx writes).value =
      ({ card with
          registers := card.registers.setAll writes
          pending := if .tdh ∈ writes.map Prod.fst then 0 else card.pending }, tx) := by
  induction writes generalizing card with
  | nil => rfl
  | cons write writes ih =>
    obtain ⟨reg, value⟩ := write
    simp only [List.map_cons, List.mem_cons, not_or] at htail
    have hstore : (RegisterBus.write card tx reg value).value =
        ({ card.setRegister reg value with
          pending := if reg = .tdh then 0 else card.pending }, tx) := by
      cases reg <;> first | rfl | exact absurd rfl htail.1
    simp only [writeAll, Logged.value_bind, hstore]
    rw [ih _ htail.2]
    by_cases hhead : reg = .tdh
    · simp only [hhead, if_true, ite_self, List.map_cons, List.mem_cons, true_or]
      rfl
    · have hhead' : ¬Reg.tdh = reg := fun heq => hhead heq.symm
      simp only [hhead, if_false, List.map_cons, List.mem_cons, hhead', false_or]
      rfl

/-- The writes in front of the transmit tail: the place and the length of the ring, and the head. -/
def beforeTail (mac : Mac) (tx : TxRing) (rx : RxRing) : List (Reg × UInt32) :=
  (program mac tx rx).take 4

/-- The writes behind the transmit tail. -/
def behindTail (mac : Mac) (tx : TxRing) (rx : RxRing) : List (Reg × UInt32) :=
  (program mac tx rx).drop 5

/-- The transmit tail stands between the two. -/
theorem program_eq_append (mac : Mac) (tx : TxRing) (rx : RxRing) :
    program mac tx rx = beforeTail mac tx rx ++ ((.tdt, 0) :: behindTail mac tx rx) := rfl

/-- A card that was told about its ring, just before its transmit tail is written. -/
def located (card : Emulated) (mac : Mac) (tx : TxRing) (rx : RxRing) : Emulated :=
  { card with registers := card.registers.setAll (beforeTail mac tx rx), pending := 0 }

/-- The transmit tail is the one write of the list that may do more than store a value. -/
theorem value_writeAll_program (card : Emulated) (mac : Mac) (tx : TxRing) (rx : RxRing) :
    (writeAll card tx (program mac tx rx)).value =
      let moved := ((located card mac tx rx).write tx .tdt 0).value
      ({ moved.1 with registers := moved.1.registers.setAll (behindTail mac tx rx) }, moved.2) := by
  have hbefore : .tdt ∉ (beforeTail mac tx rx).map Prod.fst := by simp [beforeTail, program]
  have hhead : .tdh ∈ (beforeTail mac tx rx).map Prod.fst := by simp [beforeTail, program]
  have hbehind : .tdt ∉ (behindTail mac tx rx).map Prod.fst := by simp [behindTail, program]
  have hlater : .tdh ∉ (behindTail mac tx rx).map Prod.fst := by simp [behindTail, program]
  rw [program_eq_append, value_writeAll_append, value_writeAll_of_notMem _ _ _ hbefore,
    if_pos hhead]
  simp only [writeAll, Logged.value_bind, RegisterBus.write]
  rw [value_writeAll_of_notMem _ _ _ hbehind, if_neg hlater]
  rfl

/-- Programming a card after a reset only stores values. -/
theorem value_writeAll_start (auto : Bool) (mac : Mac) (tx : TxRing) (rx : RxRing) :
    (writeAll (Emulated.start auto) tx (program mac tx rx)).value =
      ({ Emulated.start auto with
          registers := Registers.zero.setAll (program mac tx rx) }, tx) := by
  -- the transmit tail is written where the ring's length is known and the tail still zero
  have hlength : (located (Emulated.start auto) mac tx rx).registers.tdlen =
      Ring.tableBytes Host.txRingSize := rfl
  have hzero := Emulated.write_tdt_zero (located (Emulated.start auto) mac tx rx) tx
    (Registers.txSlots_of_tdlen hlength) rfl rfl
  rw [value_writeAll_program, program_eq_append]
  simp only [hzero, Registers.setAll, List.foldl_append, List.foldl_cons]
  rfl

/-- Clearing the multicast table leaves the other registers alone. -/
theorem foldl_multicast (reg : Reg) (hreg : ∀ word, reg ≠ .mta word) (value : UInt32)
    (words : List (Fin multicastWords)) :
    (words.map fun word => (Reg.mta word, (0 : UInt32))).foldl
      (fun value write => if reg = write.1 then write.2 else value) value = value := by
  induction words with
  | nil => rfl
  | cons word words ih =>
    rw [List.map_cons, List.foldl_cons, if_neg (hreg word)]
    exact ih

/-- The registers that the two rings and the interrupts depend on, as programming leaves them. -/
structure Programmed (registers : Registers) : Prop where
  tdlen : registers.get .tdlen = Ring.tableBytes Host.txRingSize
  tdh : registers.get .tdh = 0
  tdt : registers.get .tdt = 0
  rdlen : registers.get .rdlen = Ring.tableBytes Host.rxRingSize
  rdh : registers.get .rdh = 0
  rdt : registers.get .rdt = Slot.toWord (Slot.last Host.rxRingSize Host.rxRingSize_pos)
  rctl : registers.get .rctl = Bits.rxControl

/-- Programming leaves the registers programmed. -/
theorem programmed_setAll (mac : Mac) (tx : TxRing) (rx : RxRing) :
    Programmed (Registers.zero.setAll (program mac tx rx)) := by
  constructor
  all_goals
    rw [Registers.get_setAll]
    simp only [program, List.foldl_append, foldl_multicast, List.foldl_cons, List.foldl_nil,
      reduceCtorEq, if_false, if_true, ne_eq, not_false_eq_true, implies_true]

/-- A driver over a card that was just set up: its registers are programmed, its rings are as they
were placed, and nothing has happened yet. -/
structure SetUp (adapter : Adapter Emulated) : Prop where
  registers : Programmed adapter.bus.registers
  pending : adapter.bus.pending = 0
  sent : adapter.bus.sent = []
  tx : ∃ tableAddress poolAddress, adapter.tx = Ring.place UInt64.ofNat tableAddress poolAddress
  rx : ∃ tableAddress poolAddress, adapter.rx = Ring.place UInt64.ofNat tableAddress poolAddress
  last : adapter.last = Slot.last Host.rxRingSize Host.rxRingSize_pos
  stats : adapter.stats = Stats.zero

/-- A driver over a card that was programmed with the given rings. -/
def programmed (card : Emulated) (mac : Mac) (tx : TxRing) (rx : RxRing) : Adapter Emulated where
  bus := (writeAll card tx (program mac tx rx)).value.1
  mac := mac
  tx := (writeAll card tx (program mac tx rx)).value.2
  rx := rx
  last := Slot.last Host.rxRingSize Host.rxRingSize_pos
  stats := Stats.zero
  arrival := Condition.start

/-- Setting up any card succeeds wherever the heap puts the rings. -/
theorem init_eq_programmed (card : Emulated) (mac : Mac) (heap : Heap) :
    ∃ (tx : TxRing) (rx : RxRing) (rest : Heap),
      (∃ tableAddress poolAddress, tx = Ring.place UInt64.ofNat tableAddress poolAddress) ∧
      (∃ tableAddress poolAddress, rx = Ring.place UInt64.ofNat tableAddress poolAddress) ∧
      (init card mac heap).value = .ok (programmed card mac tx rx, rest) := by
  obtain ⟨txTable, txPool, rxTable, rxPool, rest, last, htx, hrx⟩ :=
    exists_hostRings UInt64.ofNat heap
  refine ⟨_, _, last, ⟨txTable, txPool, rfl⟩, ⟨rxTable, rxPool, rfl⟩, ?_⟩
  have hbus : RegisterBus.busAddress card = UInt64.ofNat := rfl
  simp only [init, hbus, htx, hrx, start, Logged.value_bind, Logged.value_pure]
  rfl

/-- Setting up a card after a reset leaves it set up. -/
theorem exists_init (auto : Bool) (mac : Mac) (heap : Heap) :
    ∃ (adapter : Adapter Emulated) (rest : Heap),
      (init (Emulated.start auto) mac heap).value = .ok (adapter, rest) ∧ adapter.SetUp := by
  obtain ⟨tx, rx, rest, htx, hrx, hinit⟩ := init_eq_programmed (Emulated.start auto) mac heap
  have hvalue := value_writeAll_start auto mac tx rx
  have hwritten := programmed_setAll mac tx rx
  refine ⟨programmed (Emulated.start auto) mac tx rx, rest, hinit, ?_⟩
  constructor
  all_goals simp only [programmed, hvalue]
  · exact hwritten
  · rfl
  · rfl
  · exact htx
  · exact hrx

/-- A card whose transmit registers are programmed is linked to a freshly placed ring if nothing is
pending. -/
theorem txLinked_of_place {card : Emulated} {tx : TxRing}
    (htdlen : card.registers.tdlen = Ring.tableBytes Host.txRingSize)
    (htdh : card.registers.tdh = 0) (htdt : card.registers.tdt = 0) (hpending : card.pending = 0)
    (htx : ∃ tableAddress poolAddress, tx = Ring.place UInt64.ofNat tableAddress poolAddress) :
    card.TxLinked tx := by
  obtain ⟨tableAddress, poolAddress, htx⟩ := htx
  have hhead : card.txHead = 0 := congrArg (fun head => Slot.wrap head Host.txRingSize_pos) htdh
  constructor
  · exact Registers.txSlots_of_tdlen htdlen
  · rw [hpending]
    exact Nat.zero_le _
  · rw [hpending, Slot.ahead_zero, hhead]
    exact htdt
  · rw [htx]
    exact Ring.pointed_place TxDescriptor.address_armed _ _ (by decide) (by decide)
  · intro k _
    rw [hpending, htx]
    simp only [Ring.descriptor, Ring.place, Fin.getElem_fin, Vector.getElem_ofFn]
    show isDone Bits.statusDone = true ↔ 0 ≤ k
    exact iff_of_true (by decide) (Nat.zero_le k)

/-- The transmit ring of a driver that was just set up is linked to its card. -/
theorem SetUp.txLinked {adapter : Adapter Emulated} (h : adapter.SetUp) : adapter.TxLinked :=
  txLinked_of_place h.registers.tdlen h.registers.tdh h.registers.tdt h.pending h.tx

/-- No frame is outstanding in a driver that was just set up. -/
theorem SetUp.outstanding {adapter : Adapter Emulated} (h : adapter.SetUp) :
    adapter.outstanding = [] := by
  unfold Adapter.outstanding Emulated.outstanding
  rw [h.pending, Slot.window_zero]

/-- No slot is filled in a card that was just set up. -/
theorem SetUp.filled {adapter : Adapter Emulated} (h : adapter.SetUp) :
    adapter.bus.filled adapter.last = 0 := by
  have hhead : adapter.bus.rxHead = 0 :=
    congrArg (fun head => Slot.wrap head Host.rxRingSize_pos) h.registers.rdh
  unfold Emulated.filled
  rw [hhead, h.last]
  decide

/-- The receive ring of a driver that was just set up is linked to its card. -/
theorem SetUp.rxLinked {adapter : Adapter Emulated} (h : adapter.SetUp) : adapter.RxLinked := by
  obtain ⟨tableAddress, poolAddress, hrx⟩ := h.rx
  constructor
  · exact (congrArg (fun length : UInt32 => length.toNat / 16) h.registers.rdlen).trans (by decide)
  · rw [show adapter.bus.registers.rctl = Bits.rxControl from h.registers.rctl]
    decide
  · rw [h.last]
    exact h.registers.rdt
  · rw [hrx]
    exact Ring.pointed_place RxDescriptor.address_armed _ _ (by decide) (by decide)
  · intro k _
    rw [h.filled, if_neg (Nat.not_lt_zero k), hrx]
    simp only [Ring.descriptor, Ring.place, Fin.getElem_fin, Vector.getElem_ofFn]
    rfl
  · intro k hk
    rw [h.filled] at hk
    exact absurd hk (Nat.not_lt_zero k)

/-- No frame is stored in a driver that was just set up. -/
theorem SetUp.stored {adapter : Adapter Emulated} (h : adapter.SetUp) : adapter.stored = [] :=
  adapter.stored_eq_nil_iff.2 h.filled

end Adapter

end NetStack
