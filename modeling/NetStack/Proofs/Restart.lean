import NetStack.Bench.Run
import NetStack.Proofs.SetUp

/-!
# Setting up a card that was in use

A written transmit tail hands over the descriptors between the old tail and the new one. Setting up
a card writes zero there after the ring's length is known, and the old tail is then whatever was
left in the card: the blank descriptors from it to the end of the ring (`staleSlots`) are handed
over. The card sends them at once as empty frames if it completes transmissions by itself, and keeps
them pending otherwise (`Rewound`). In the first case its head no longer stands where the driver
writes. `init_over_tail` says that only a tail that was zero before leaves a clean transmit side, on
which all accepted frames reach the line in their order (`Faithful`).
-/

namespace NetStack

/-- A written descriptor that was there before changes nothing. -/
theorem Ring.setDescriptor_self {δ : Type} {n size : Nat} (ring : Ring δ n size) (slot : Fin n) :
    ring.setDescriptor slot (ring.descriptor slot) = ring := by
  unfold setDescriptor descriptor
  rw [Fin.getElem_fin, Vector.set_getElem_self]

/-- A free descriptor that was never handed over is handed back as it is. -/
theorem TxDescriptor.complete_armed (address : UInt64) :
    (armed address).complete = armed address := by
  have hstatus : Bits.statusDone ||| Bits.statusDone = Bits.statusDone := by decide
  unfold complete armed
  simp only [hstatus]

namespace Emulated

/-! ## Blank descriptors -/

/-- A ring in which no descriptor announces a frame, and all are free. -/
structure Blank (tx : TxRing) : Prop where
  pointed : tx.Pointed
  held : ∀ slot, tx.held TxDescriptor.length slot = []
  complete : ∀ slot, (tx.descriptor slot).complete = tx.descriptor slot

/-- A ring is placed blank. -/
theorem blank_place (tableAddress poolAddress : Nat) :
    Blank (Ring.place UInt64.ofNat tableAddress poolAddress) := by
  have hdescriptor (slot : Fin Host.txRingSize) :
      (Ring.place UInt64.ofNat tableAddress poolAddress : TxRing).descriptor slot =
        TxDescriptor.armed (UInt64.ofNat (poolAddress + slot.val * Host.txBufferSize)) := by
    simp only [Ring.descriptor, Ring.place, Fin.getElem_fin, Vector.getElem_ofFn]
    rfl
  constructor
  · exact Ring.pointed_place TxDescriptor.address_armed _ _ (by decide) (by decide)
  · intro slot
    unfold Ring.held
    rw [hdescriptor]
    rfl
  · intro slot
    rw [hdescriptor, TxDescriptor.complete_armed]

/-- A card before and after it sent `count` blank descriptors. -/
structure SendsBlanks (count : Nat) (card next : Emulated) : Prop where
  tdh : next.registers.tdh = Slot.toWord (Slot.ahead card.txHead count)
  tdt : next.registers.tdt = card.registers.tdt
  tdlen : next.registers.tdlen = card.registers.tdlen
  autoComplete : next.autoComplete = card.autoComplete
  pending : next.pending = card.pending - count
  sent : next.sent = card.sent ++ List.replicate count []

/-- Blank descriptors are sent as empty frames, and the ring stays blank. -/
theorem sendMany_blank {card : Emulated} {tx : TxRing} (hblank : Blank tx)
    (hslots : card.registers.txSlots = Host.txRingSize)
    (htdh : card.registers.tdh = Slot.toWord card.txHead) (count : Nat) :
    (card.sendMany tx count).value.2 = tx ∧
      SendsBlanks count card (card.sendMany tx count).value.1 := by
  -- induction on the count: what was sent is handed back as it is, so the ring stays blank
  induction count generalizing card with
  | zero =>
    refine ⟨rfl, ?_, rfl, rfl, rfl, rfl, ?_⟩
    · rw [Slot.ahead_zero]
      exact htdh
    · exact (List.append_nil _).symm
  | succ count ih =>
    have hhead : (card.sendHead tx).value = (card.headSent tx, tx) := by
      rw [sendHead_value hslots hblank.pointed, hblank.complete, Ring.setDescriptor_self]
    have hmoved := card.txHead_headSent tx
    have hrest : (card.sendMany tx (count + 1)).value =
        ((card.headSent tx).sendMany tx count).value := by
      simp only [sendMany, Logged.value_bind, hhead]
    have hword : (card.headSent tx).registers.tdh = Slot.toWord (card.headSent tx).txHead := by
      rw [hmoved]
      rfl
    have hslots' : (card.headSent tx).registers.txSlots = Host.txRingSize := hslots
    rw [hrest]
    obtain ⟨htx, hsends⟩ := ih hslots' hword
    refine ⟨htx, ?_, hsends.tdt, hsends.tdlen, hsends.autoComplete, ?_, ?_⟩
    · rw [hsends.tdh, hmoved, Slot.ahead_next]
    · rw [hsends.pending]
      show card.pending - 1 - count = card.pending - (count + 1)
      omega
    · rw [hsends.sent]
      show card.sent ++ [tx.held TxDescriptor.length card.txHead] ++ List.replicate count [] = _
      rw [hblank.held, List.append_assoc]
      rfl

/-- Completing blank descriptors sends them as empty frames. -/
theorem retire_blank {card : Emulated} {tx : TxRing} (hblank : Blank tx)
    (hslots : card.registers.txSlots = Host.txRingSize)
    (htdh : card.registers.tdh = Slot.toWord card.txHead) (count : Nat) :
    (card.retire tx count).value.2 = tx ∧
      SendsBlanks count card (card.retire tx count).value.1 := by
  obtain ⟨htx, hsends⟩ := sendMany_blank hblank hslots htdh count
  simp only [retire, Logged.value_bind, Logged.value_pure]
  refine ⟨htx, ?_⟩
  split
  · exact hsends
  · -- the interrupt cause that is raised is no part of the transmit side
    exact ⟨hsends.tdh, hsends.tdt, hsends.tdlen, hsends.autoComplete, hsends.pending, hsends.sent⟩

/-- The number of descriptors from the transmit tail around the ring to its first slot. -/
def staleSlots (card : Emulated) : Nat :=
  (Host.txRingSize - card.registers.tdt.toNat) % Host.txRingSize

/-- A tail within the ring leaves no descriptor behind it only if it is zero. -/
theorem staleSlots_eq_zero_iff {card : Emulated}
    (htail : card.registers.tdt.toNat < Host.txRingSize) :
    card.staleSlots = 0 ↔ card.registers.tdt = 0 := by
  have hzero : card.registers.tdt = 0 ↔ card.registers.tdt.toNat = 0 := UInt32.toNat_inj.symm
  rw [hzero]
  unfold staleSlots
  simp only [Host.txRingSize] at htail ⊢
  omega

/-- A tail that is written to zero hands over the descriptors behind the old one. -/
theorem write_tdt_first {card : Emulated} (tx : TxRing)
    (hslots : card.registers.txSlots = Host.txRingSize) (hpending : card.pending = 0)
    (htail : card.registers.tdt.toNat < Host.txRingSize) :
    (card.write tx .tdt 0).value =
      if card.autoComplete then
        ((card.tailAt 0 card.staleSlots).retire tx card.staleSlots).value
      else (card.tailAt 0 card.staleSlots, tx) := by
  -- the old tail is the word of a slot
  let old : Fin Host.txRingSize := ⟨card.registers.tdt.toNat, htail⟩
  have htdt : card.registers.tdt = Slot.toWord old := (UInt32.ofNat_toNat).symm
  have hdistance : Slot.distance old 0 = card.staleSlots := by
    show (0 + Host.txRingSize - card.registers.tdt.toNat) % Host.txRingSize = card.staleSlots
    rw [Nat.zero_add]
    rfl
  have hvalue := write_tdt_value 0 tx hslots htdt
  rw [hdistance, hpending, Nat.zero_add] at hvalue
  exact hvalue

/-- What a card makes of its transmit side when its tail is written to zero over blank descriptors.
-/
structure Rewound (card next : Emulated) : Prop where
  tdt : next.registers.tdt = 0
  autoComplete : next.autoComplete = card.autoComplete
  tdh : next.registers.tdh.toNat = if card.autoComplete then card.staleSlots else 0
  pending : next.pending = if card.autoComplete then 0 else card.staleSlots
  sent : next.sent =
    card.sent ++ List.replicate (if card.autoComplete then card.staleSlots else 0) []

/-- It depends on no other register than the old tail. -/
theorem Rewound.of_tdt {card other next : Emulated} (h : Rewound other next)
    (htdt : other.registers.tdt = card.registers.tdt)
    (hauto : other.autoComplete = card.autoComplete) (hsent : other.sent = card.sent) :
    Rewound card next := by
  have hstale : other.staleSlots = card.staleSlots := by
    unfold staleSlots
    rw [htdt]
  obtain ⟨htdt', hauto', htdh', hpending', hsent'⟩ := h
  rw [hauto, hstale] at htdh' hpending' hsent'
  exact ⟨htdt', hauto'.trans hauto, htdh', hpending', hsent ▸ hsent'⟩

/-- Writes that leave the head and the tail out do not undo it. -/
theorem Rewound.setAll {card next : Emulated} (h : Rewound card next)
    {writes : List (Reg × UInt32)} (hhead : .tdh ∉ writes.map Prod.fst)
    (htail : .tdt ∉ writes.map Prod.fst) :
    Rewound card { next with registers := next.registers.setAll writes } := by
  have htdh := Registers.get_setAll_of_notMem hhead next.registers
  have htdt := Registers.get_setAll_of_notMem htail next.registers
  exact ⟨htdt.trans h.tdt, h.autoComplete, (congrArg UInt32.toNat htdh).trans h.tdh, h.pending,
    h.sent⟩

/-- A tail that is written to zero over blank descriptors leaves the ring blank. -/
theorem write_tdt_blank {card : Emulated} {tx : TxRing} (hblank : Blank tx)
    (hslots : card.registers.txSlots = Host.txRingSize)
    (htdh : card.registers.tdh = 0) (hpending : card.pending = 0)
    (htail : card.registers.tdt.toNat < Host.txRingSize) :
    (card.write tx .tdt 0).value.2 = tx ∧
      (card.write tx .tdt 0).value.1.registers.tdlen = card.registers.tdlen ∧
      Rewound card (card.write tx .tdt 0).value.1 := by
  rw [write_tdt_first tx hslots hpending htail]
  cases hauto : card.autoComplete with
  | false =>
    refine ⟨rfl, rfl, rfl, rfl, ?_, ?_, ?_⟩ <;> rw [hauto]
    · exact congrArg UInt32.toNat htdh
    · show card.pending + card.staleSlots = card.staleSlots
      rw [hpending, Nat.zero_add]
    · exact (List.append_nil _).symm
  | true =>
    let taken := card.tailAt 0 card.staleSlots
    have hhead : taken.txHead = 0 := congrArg (Slot.wrap · Host.txRingSize_pos) htdh
    have hword : taken.registers.tdh = Slot.toWord taken.txHead := by
      rw [hhead]
      exact htdh
    have hslots' : taken.registers.txSlots = Host.txRingSize := hslots
    obtain ⟨htx, hsends⟩ := retire_blank hblank hslots' hword card.staleSlots
    rw [if_pos rfl]
    refine ⟨htx, hsends.tdlen, hsends.tdt, hsends.autoComplete, ?_, ?_, ?_⟩ <;> rw [hauto]
    · -- counted from the first slot, the head has moved on by what was sent
      have hlt : card.staleSlots < Host.txRingSize := Nat.mod_lt _ Host.txRingSize_pos
      rw [if_pos rfl, hsends.tdh, hhead, Slot.toNat_toWord _ (by decide)]
      show (0 + card.staleSlots) % Host.txRingSize = card.staleSlots
      rw [Nat.zero_add, Nat.mod_eq_of_lt hlt]
    · rw [if_pos rfl, hsends.pending]
      show card.pending + card.staleSlots - card.staleSlots = 0
      rw [hpending, Nat.zero_add, Nat.sub_self]
    · exact hsends.sent

/-- With nothing pending, a card that completes transmissions by itself sends what is held at its
head when its tail moves on by one slot, wherever the two are. -/
theorem write_tdt_next {card : Emulated} {tx : TxRing} {slot : Fin Host.txRingSize}
    (hslots : card.registers.txSlots = Host.txRingSize)
    (htdt : card.registers.tdt = Slot.toWord slot) (hpending : card.pending = 0)
    (hauto : card.autoComplete = true) (hpointed : tx.Pointed) :
    let written := (card.write tx .tdt (Slot.toWord (Slot.next slot))).value.1
    written.pending = 0 ∧
      written.sent = card.sent ++ [tx.held TxDescriptor.length card.txHead] := by
  have hone : Slot.distance slot (Slot.next slot) = 1 := Slot.distance_ahead slot (by decide)
  have hslots' : (card.tailAt (Slot.next slot) 1).registers.txSlots = Host.txRingSize := hslots
  have hhead := sendHead_value hslots' hpointed
  rw [write_tdt_value _ tx hslots htdt, hone, hpending, hauto]
  simp only [if_true, retire, sendMany, Logged.value_bind, Logged.value_pure, hhead]
  refine ⟨?_, rfl⟩
  show card.pending + 1 - 1 = 0
  rw [hpending]

end Emulated

namespace Adapter

/-! ## Frames that are offered one after another -/

/-- Offers frames for transmission one after another, and keeps those that were accepted. -/
def transmitAll (adapter : Adapter Emulated) : List Bytes → List Bytes × Adapter Emulated
  | [] => ([], adapter)
  | frame :: frames =>
    let offered := (adapter.transmit frame).value
    let rest := offered.2.transmitAll frames
    match offered.1 with
    | .ok () => (frame :: rest.1, rest.2)
    | .error _ => rest

/-- What is on the line once the card completed all transmissions. -/
def lineOut (adapter : Adapter Emulated) : List Bytes :=
  (adapter.bus.complete adapter.tx Host.txRingSize).value.2.1.sent

/-- Over a linked ring all outstanding frames go to the line. -/
theorem TxLinked.lineOut {adapter : Adapter Emulated} (h : adapter.TxLinked) :
    adapter.lineOut = adapter.bus.sent ++ adapter.outstanding := by
  obtain ⟨-, hsends⟩ := Emulated.TxLinked.sends_complete h Host.txRingSize
  have hall : min Host.txRingSize adapter.bus.pending = adapter.outstanding.length := by
    rw [Nat.min_eq_right h.pending_le]
    exact (Slot.length_window _ _ _).symm
  unfold Adapter.lineOut
  rw [hsends.sent, hall]
  exact congrArg (adapter.bus.sent ++ ·) List.take_length

/-- The accepted frames come behind all that were sent or are outstanding, in their order and byte
for byte. -/
theorem TxLinked.transmitAll {adapter : Adapter Emulated} (h : adapter.TxLinked)
    (frames : List Bytes) :
    (adapter.transmitAll frames).2.TxLinked ∧
      (adapter.transmitAll frames).2.bus.sent ++ (adapter.transmitAll frames).2.outstanding =
        adapter.bus.sent ++ adapter.outstanding ++ (adapter.transmitAll frames).1 := by
  induction frames generalizing adapter with
  | nil => exact ⟨h, (List.append_nil _).symm⟩
  | cons frame frames ih =>
    rcases hvalue : (adapter.transmit frame).value with ⟨outcome, next⟩
    simp only [Adapter.transmitAll, hvalue]
    -- a refusal is counted, and the count is no part of the ring or the card
    cases h.transmit_spec hvalue with
    | tooLong => exact ih h
    | full => exact ih h
    | taken _ hlinked hframes =>
      obtain ⟨hlast, hrest⟩ := ih hlinked
      refine ⟨hlast, ?_⟩
      rw [hrest, hframes]
      simp only [List.append_assoc, List.singleton_append]

/-- A transmission leaves at most one descriptor more pending, and none if none was and the card
completes transmissions by itself. -/
theorem TxLinked.pending_transmit {adapter : Adapter Emulated} (h : adapter.TxLinked)
    (hidle : adapter.bus.autoComplete = true → adapter.bus.pending = 0) (frame : Bytes) :
    let next := (adapter.transmit frame).value.2
    next.bus.pending ≤ adapter.bus.pending + 1 ∧
      next.bus.autoComplete = adapter.bus.autoComplete ∧
      (next.bus.autoComplete = true → next.bus.pending = 0) := by
  simp only [transmit, RegisterBus.read, Emulated.read, h.wrap_tdt]
  split
  · exact ⟨Nat.le_succ _, rfl, hidle⟩
  split
  · simp only [Logged.value_bind, Logged.value_pure, RegisterBus.write, reduceCtorEq, if_false]
    rw [Emulated.TxLinked.write_tdt_value h]
    split
    · rename_i hauto
      simp only [Emulated.retire, Logged.value_bind, Logged.value_pure, Nat.succ_ne_zero, if_false]
      obtain ⟨hpending, hkept⟩ := adapter.bus.handedOver.pending_sendMany
        (Emulated.fillTx adapter.tx adapter.bus.txTail frame) (adapter.bus.pending + 1)
      have hnone : adapter.bus.handedOver.pending - (adapter.bus.pending + 1) = 0 := Nat.sub_self _
      rw [hnone] at hpending
      exact ⟨hpending ▸ Nat.zero_le _, hkept, fun _ => hpending⟩
    · rename_i hauto
      exact ⟨Nat.le_refl _, rfl, fun h => absurd h hauto⟩
  · exact ⟨Nat.le_succ _, rfl, hidle⟩

/-- As many frames that fit as there are free descriptors are all accepted. -/
theorem TxLinked.transmitAll_of_room {adapter : Adapter Emulated} (h : adapter.TxLinked)
    (hidle : adapter.bus.autoComplete = true → adapter.bus.pending = 0)
    {frames : List Bytes} (hfit : ∀ frame ∈ frames, frame.length ≤ Host.txBufferSize)
    (hroom : adapter.bus.pending + frames.length ≤ Host.txRingSize) :
    (adapter.transmitAll frames).1 = frames := by
  induction frames generalizing adapter with
  | nil => rfl
  | cons frame frames ih =>
    rw [List.length_cons] at hroom
    obtain ⟨next, hvalue, hlinked, -⟩ :=
      h.exists_transmit (hfit frame List.mem_cons_self) (by omega)
    obtain ⟨hpending, -, hidle'⟩ := h.pending_transmit hidle frame
    simp only [hvalue] at hpending hidle'
    have hrest := ih hlinked hidle' (fun other hother => hfit other (List.mem_cons_of_mem _ hother))
      (by omega)
    simp only [Adapter.transmitAll, hvalue, hrest]

/-- A card that completes transmissions by itself has nothing outstanding after any number of them,
if it had nothing before. -/
theorem TxLinked.pending_transmitAll {adapter : Adapter Emulated} (h : adapter.TxLinked)
    (hauto : adapter.bus.autoComplete = true) (hpending : adapter.bus.pending = 0)
    (frames : List Bytes) : (adapter.transmitAll frames).2.bus.pending = 0 := by
  induction frames generalizing adapter with
  | nil => exact hpending
  | cons frame frames ih =>
    obtain ⟨-, hkept, hidle⟩ := h.pending_transmit (fun _ => hpending) frame
    rcases hvalue : (adapter.transmit frame).value with ⟨outcome, next⟩
    simp only [hvalue] at hkept hidle
    have hauto' := hkept.trans hauto
    simp only [Adapter.transmitAll, hvalue]
    cases h.transmit_spec hvalue with
    | tooLong => exact ih h hauto' (hidle hauto')
    | full => exact ih h hauto' (hidle hauto')
    | taken _ hlinked => exact ih hlinked hauto' (hidle hauto')

/-! ## A clean start -/

/-- Nothing is handed over to the card, and `before` is all that it sent. -/
structure CleanTx (before : List Bytes) (adapter : Adapter Emulated) : Prop where
  tdh : adapter.bus.registers.tdh = 0
  tdt : adapter.bus.registers.tdt = 0
  pending : adapter.bus.pending = 0
  sent : adapter.bus.sent = before

/-- From now on, the accepted frames reach the line in their order and byte for byte, with nothing
between them. -/
structure Faithful (adapter : Adapter Emulated) : Prop where
  /-- The frames have reached the line once all transmissions are completed. -/
  lineOut : ∀ frames : List Bytes, (adapter.transmitAll frames).2.lineOut =
    adapter.bus.sent ++ (adapter.transmitAll frames).1
  /-- They have reached it before if the card completes transmissions by itself. -/
  sent : adapter.bus.autoComplete = true → ∀ frames : List Bytes,
    (adapter.transmitAll frames).2.bus.sent = adapter.bus.sent ++ (adapter.transmitAll frames).1
  /-- A ring full of frames that fit is accepted. -/
  accepted : ∀ frames : List Bytes, (∀ frame ∈ frames, frame.length ≤ Host.txBufferSize) →
    frames.length ≤ Host.txRingSize → (adapter.transmitAll frames).1 = frames

/-- A linked ring with no descriptor pending is faithful. -/
theorem TxLinked.faithful {adapter : Adapter Emulated} (h : adapter.TxLinked)
    (hpending : adapter.bus.pending = 0) : adapter.Faithful := by
  have hnone : adapter.outstanding = [] := by
    unfold outstanding Emulated.outstanding
    rw [hpending, Slot.window_zero]
  constructor
  · intro frames
    obtain ⟨hlast, hframes⟩ := h.transmitAll frames
    rw [hlast.lineOut, hframes, hnone, List.append_nil]
  · intro hauto frames
    obtain ⟨-, hframes⟩ := h.transmitAll frames
    have hlast : (adapter.transmitAll frames).2.outstanding = [] := by
      unfold outstanding Emulated.outstanding
      rw [h.pending_transmitAll hauto hpending, Slot.window_zero]
    rw [hnone, hlast, List.append_nil, List.append_nil] at hframes
    exact hframes
  · intro frames hfit hlength
    exact h.transmitAll_of_room (fun _ => hpending) hfit (by omega)

/-- With nothing pending, completing transmissions changes nothing on the line. -/
theorem lineOut_of_pending {adapter : Adapter Emulated} (hpending : adapter.bus.pending = 0) :
    adapter.lineOut = adapter.bus.sent := by
  have hnone : min Host.txRingSize adapter.bus.pending = 0 := by
    rw [hpending, Nat.min_zero]
  simp only [lineOut, Emulated.complete, hnone, ne_eq, not_true_eq_false, false_and, if_false,
    Emulated.retire, Emulated.sendMany, Logged.value_bind, Logged.value_pure, if_true]

/-- Pending blank descriptors go to the line as empty frames. -/
theorem lineOut_of_blank {adapter : Adapter Emulated} (hblank : Emulated.Blank adapter.tx)
    (hslots : adapter.bus.registers.txSlots = Host.txRingSize)
    (htdh : adapter.bus.registers.tdh = Slot.toWord adapter.bus.txHead)
    (hpending : adapter.bus.pending ≤ Host.txRingSize) :
    adapter.lineOut = adapter.bus.sent ++ List.replicate adapter.bus.pending [] := by
  have hslots' : ¬adapter.bus.registers.txSlots = 0 := by
    rw [hslots]
    decide
  obtain ⟨-, hsends⟩ := Emulated.retire_blank hblank hslots htdh adapter.bus.pending
  simp only [lineOut, Emulated.complete, hslots', and_false, if_false, Nat.min_eq_right hpending]
  exact hsends.sent

/-- A card that completes transmissions by itself sends a blank descriptor in a frame's place if its
head is not where the driver writes. -/
theorem exists_transmit_of_blank {adapter : Adapter Emulated} (hblank : Emulated.Blank adapter.tx)
    (hslots : adapter.bus.registers.txSlots = Host.txRingSize)
    (htdt : adapter.bus.registers.tdt = 0) (hpending : adapter.bus.pending = 0)
    (hauto : adapter.bus.autoComplete = true) (hhead : adapter.bus.txHead ≠ 0) {frame : Bytes}
    (hfits : frame.length ≤ Host.txBufferSize) :
    ∃ next, (adapter.transmit frame).value = (.ok (), next) ∧ next.bus.pending = 0 ∧
      next.bus.sent = adapter.bus.sent ++ [[]] := by
  have hfirst : adapter.bus.registers.tdt = Slot.toWord (0 : Fin Host.txRingSize) := htdt
  have hslot : Slot.wrap (adapter.bus.registers.get .tdt) Host.txRingSize_pos = 0 :=
    congrArg (Slot.wrap · Host.txRingSize_pos) htdt
  have hdone : (adapter.tx.descriptor 0).done = true := by
    rw [← hblank.complete]
    exact TxDescriptor.done_complete _
  have hpointed : (Emulated.fillTx adapter.tx 0 frame).Pointed :=
    (hblank.pointed.load 0 frame).setDescriptor rfl
  have hheld : (Emulated.fillTx adapter.tx 0 frame).held TxDescriptor.length adapter.bus.txHead =
      [] := (adapter.tx.held_fill_of_ne _ _ _ hhead).trans (hblank.held _)
  obtain ⟨hnone, hsent⟩ := Emulated.write_tdt_next hslots hfirst hpending hauto hpointed
  rw [hheld] at hsent
  simp only [transmit, RegisterBus.read, Emulated.read, hslot]
  rw [if_neg (Nat.not_lt.2 hfits), if_pos hdone]
  simp only [Logged.value_bind, Logged.value_pure, RegisterBus.write, reduceCtorEq, if_false]
  exact ⟨_, rfl, hnone, hsent⟩

/-- A driver over a card that was in use before: its ring was just placed, and the card knows the
length of it and had its transmit side rewound. -/
structure Restarted (card : Emulated) (adapter : Adapter Emulated) : Prop where
  tx : ∃ tableAddress poolAddress, adapter.tx = Ring.place UInt64.ofNat tableAddress poolAddress
  tdlen : adapter.bus.registers.tdlen = Ring.tableBytes Host.txRingSize
  rewound : Emulated.Rewound card adapter.bus

namespace Restarted

variable {card : Emulated} {adapter : Adapter Emulated}

/-- The ring is blank. -/
theorem blank (h : Restarted card adapter) : Emulated.Blank adapter.tx := by
  obtain ⟨tableAddress, poolAddress, htx⟩ := h.tx
  rw [htx]
  exact Emulated.blank_place tableAddress poolAddress

/-- The card counts in the slots of the ring. -/
theorem slots (h : Restarted card adapter) :
    adapter.bus.registers.txSlots = Host.txRingSize :=
  Registers.txSlots_of_tdlen h.tdlen

/-- The head stands at a slot. -/
theorem toNat_tdh_lt (h : Restarted card adapter) :
    adapter.bus.registers.tdh.toNat < Host.txRingSize := by
  have hlt : card.staleSlots < Host.txRingSize := Nat.mod_lt _ Host.txRingSize_pos
  rw [h.rewound.tdh]
  split
  · exact hlt
  · exact Host.txRingSize_pos

/-- The word of the head's slot is the head. -/
theorem toWord_txHead (h : Restarted card adapter) :
    adapter.bus.registers.tdh = Slot.toWord adapter.bus.txHead := by
  apply UInt32.toNat_inj.1
  rw [Slot.toNat_toWord _ (by decide)]
  exact (Nat.mod_eq_of_lt h.toNat_tdh_lt).symm

/-- The transmit side is clean exactly if no descriptor was behind the old tail. -/
theorem clean_iff (h : Restarted card adapter) :
    CleanTx card.sent adapter ↔ card.staleSlots = 0 := by
  have htdh := h.rewound.tdh
  have hpending := h.rewound.pending
  have hsent := h.rewound.sent
  constructor
  · -- either the head or the number of pending descriptors shows what was behind the tail
    intro hclean
    rw [hclean.tdh] at htdh
    rw [hclean.pending] at hpending
    cases hauto : card.autoComplete with
    | false =>
      rw [hauto] at hpending
      exact hpending.symm
    | true =>
      rw [hauto] at htdh
      exact htdh.symm
  · intro hnone
    rw [hnone, ite_self] at htdh hpending hsent
    rw [List.replicate_zero, List.append_nil] at hsent
    exact ⟨UInt32.toNat_inj.1 htdh, h.rewound.tdt, hpending, hsent⟩

/-- A clean transmit side is faithful. -/
theorem faithful (h : Restarted card adapter) (hnone : card.staleSlots = 0) :
    adapter.Faithful := by
  have hclean := h.clean_iff.2 hnone
  have hlinked : adapter.TxLinked :=
    txLinked_of_place h.tdlen hclean.tdh hclean.tdt hclean.pending h.tx
  exact hlinked.faithful hclean.pending

/-- If descriptors were behind the old tail and the card completes transmissions by itself, the
first frame leaves as an empty one. -/
theorem exists_transmit (h : Restarted card adapter) (hstale : card.staleSlots ≠ 0)
    (hauto : card.autoComplete = true) {frame : Bytes}
    (hfits : frame.length ≤ Host.txBufferSize) :
    ∃ next, (adapter.transmit frame).value = (.ok (), next) ∧ next.bus.pending = 0 ∧
      next.bus.sent = adapter.bus.sent ++ [[]] := by
  have htdh := h.rewound.tdh
  have hpending := h.rewound.pending
  rw [hauto] at htdh hpending
  -- the driver writes to the first slot, but the head has gone past the blank ones
  have hhead : adapter.bus.txHead ≠ 0 := by
    intro hzero
    rw [h.toWord_txHead, hzero] at htdh
    exact hstale htdh.symm
  exact exists_transmit_of_blank h.blank h.slots h.rewound.tdt hpending
    (h.rewound.autoComplete.trans hauto) hhead hfits

/-- If descriptors were behind the old tail, the driver is not faithful. -/
theorem not_faithful (h : Restarted card adapter) (hstale : card.staleSlots ≠ 0) :
    ¬adapter.Faithful := by
  intro hfaithful
  cases hauto : card.autoComplete with
  | false =>
    -- the blank descriptors that were taken over go to the line although nothing was offered
    have hpending := h.rewound.pending
    rw [hauto] at hpending
    have hle : adapter.bus.pending ≤ Host.txRingSize := by
      rw [hpending]
      exact Nat.le_of_lt (Nat.mod_lt _ Host.txRingSize_pos)
    have hblanks := lineOut_of_blank h.blank h.slots h.toWord_txHead hle
    have hnothing : adapter.lineOut = adapter.bus.sent ++ [] := hfaithful.lineOut []
    rw [hnothing, hpending] at hblanks
    have hlength := congrArg List.length (List.append_cancel_left hblanks)
    rw [List.length_replicate] at hlength
    exact hstale hlength.symm
  | true =>
    have hfits : ([0] : Bytes).length ≤ Host.txBufferSize := by decide
    -- a frame of one byte would have to leave as it is
    obtain ⟨next, hvalue, hnone, hsent⟩ := h.exists_transmit hstale hauto hfits
    have hline := hfaithful.lineOut [[0]]
    simp only [transmitAll, hvalue] at hline
    rw [lineOut_of_pending hnone, hsent] at hline
    exact absurd (List.append_cancel_left hline) (by decide)

end Restarted

/-- Programming a card with a ring that was just placed restarts it. -/
theorem restarted_programmed (card : Emulated) (mac : Mac) {tx : TxRing} (rx : RxRing)
    (hplaced : ∃ tableAddress poolAddress,
      tx = Ring.place UInt64.ofNat tableAddress poolAddress)
    (htail : card.registers.tdt.toNat < Host.txRingSize) :
    Restarted card (programmed card mac tx rx) := by
  have hblank : Emulated.Blank tx := by
    obtain ⟨tableAddress, poolAddress, rfl⟩ := hplaced
    exact Emulated.blank_place tableAddress poolAddress
  have htdlen : (located card mac tx rx).registers.tdlen = Ring.tableBytes Host.txRingSize := rfl
  have hslots : (located card mac tx rx).registers.txSlots = Host.txRingSize :=
    Registers.txSlots_of_tdlen htdlen
  have hzero : (located card mac tx rx).registers.tdh = 0 := rfl
  have hbefore : .tdt ∉ (beforeTail mac tx rx).map Prod.fst := by simp [beforeTail, program]
  have hold : (located card mac tx rx).registers.tdt = card.registers.tdt :=
    Registers.get_setAll_of_notMem hbefore card.registers
  have hauto : (located card mac tx rx).autoComplete = card.autoComplete := by
    simp only [located]
  have hsent : (located card mac tx rx).sent = card.sent := by
    simp only [located]
  have htail' : (located card mac tx rx).registers.tdt.toNat < Host.txRingSize := by
    rw [hold]
    exact htail
  obtain ⟨htx, hlength, hrewound⟩ := Emulated.write_tdt_blank hblank hslots hzero rfl htail'
  -- what is written behind the tail touches none of the three registers
  have htdlen' : .tdlen ∉ (behindTail mac tx rx).map Prod.fst := by simp [behindTail, program]
  have htdh : .tdh ∉ (behindTail mac tx rx).map Prod.fst := by simp [behindTail, program]
  have htdt : .tdt ∉ (behindTail mac tx rx).map Prod.fst := by simp [behindTail, program]
  simp only [programmed, value_writeAll_program]
  generalize ((located card mac tx rx).write tx .tdt 0).value = moved at htx hlength hrewound ⊢
  generalize behindTail mac tx rx = later at htdlen' htdh htdt ⊢
  have hkept := Registers.get_setAll_of_notMem htdlen' moved.1.registers
  refine ⟨?_, hkept.trans (hlength.trans htdlen), ?_⟩
  · rw [htx]
    exact hplaced
  · exact (hrewound.setAll htdh htdt).of_tdt hold hauto hsent

/-- Setting up any card with its transmit tail in the ring succeeds and restarts it. -/
theorem exists_restarted (card : Emulated) (mac : Mac) (heap : Heap)
    (htail : card.registers.tdt.toNat < Host.txRingSize) :
    ∃ (adapter : Adapter Emulated) (rest : Heap),
      (init card mac heap).value = .ok (adapter, rest) ∧ Restarted card adapter := by
  obtain ⟨tx, rx, rest, hplaced, -, hinit⟩ := init_eq_programmed card mac heap
  exact ⟨programmed card mac tx rx, rest, hinit, restarted_programmed card mac rx hplaced htail⟩

/-- Setting up a card always succeeds. It leaves a clean transmit side, and one that is faithful,
exactly if the transmit tail was zero before; whatever else was in the registers, pending or sent
makes no difference. -/
theorem init_over_tail (card : Emulated) (mac : Mac) (heap : Heap)
    (htail : card.registers.tdt.toNat < Host.txRingSize) :
    ∃ (adapter : Adapter Emulated) (rest : Heap),
      (init card mac heap).value = .ok (adapter, rest) ∧
      Emulated.Rewound card adapter.bus ∧
      (CleanTx card.sent adapter ↔ card.registers.tdt = 0) ∧
      (adapter.Faithful ↔ card.registers.tdt = 0) := by
  obtain ⟨adapter, rest, hinit, hrestarted⟩ := exists_restarted card mac heap htail
  refine ⟨adapter, rest, hinit, hrestarted.rewound, ?_⟩
  rw [← Emulated.staleSlots_eq_zero_iff htail]
  refine ⟨hrestarted.clean_iff, ?_, hrestarted.faithful⟩
  intro hfaithful
  exact Decidable.byContradiction fun hstale => hrestarted.not_faithful hstale hfaithful

/-- A card whose transmit tail was zero is clean and faithful after it was set up, although another
driver's ring, head and pending descriptors were left in it. -/
theorem exists_restart :
    ∃ (card : Emulated) (adapter : Adapter Emulated) (rest : Heap),
      (card.registers.tdt = 0 ∧ card.registers.tdh = 5 ∧ card.pending = 3) ∧
      (init card Host.mac Heap.start).value = .ok (adapter, rest) ∧
      CleanTx [[1, 2]] adapter ∧ adapter.Faithful := by
  let card : Emulated := { (Emulated.start false).setRegister .tdh 5 with
    pending := 3
    sent := [[1, 2]] }
  obtain ⟨adapter, rest, hinit, -, hclean, hfaithful⟩ :=
    init_over_tail card Host.mac Heap.start (by decide)
  exact ⟨card, adapter, rest, by decide, hinit, hclean.2 rfl, hfaithful.2 rfl⟩

/-- A transmit tail of 9 makes a card that completes transmissions by itself send seven empty frames
while it is set up, and then one in place of the first frame. -/
theorem exists_stale_tail :
    ∃ (card : Emulated) (adapter next : Adapter Emulated) (rest : Heap),
      (Bench.prepareCard (Emulated.start true) [.store .tdt 9]).value = ([.ok], card) ∧
      card.sent = [] ∧
      (init card Host.mac Heap.start).value = .ok (adapter, rest) ∧
      adapter.bus.registers.tdh.toNat = 7 ∧ adapter.bus.sent = List.replicate 7 [] ∧
      (adapter.transmit [1, 2, 3]).value = (.ok (), next) ∧
      next.bus.sent = List.replicate 8 [] := by
  let card := (Emulated.start true).setRegister .tdt 9
  obtain ⟨adapter, rest, hinit, hrestarted⟩ :=
    exists_restarted card Host.mac Heap.start (by decide)
  have hfits : ([1, 2, 3] : Bytes).length ≤ Host.txBufferSize := by decide
  have hstale : card.staleSlots ≠ 0 := by decide
  obtain ⟨next, hvalue, -, hsent⟩ := hrestarted.exists_transmit hstale rfl hfits
  have hempty : adapter.bus.sent = List.replicate 7 [] := hrestarted.rewound.sent
  rw [hempty] at hsent
  exact ⟨card, adapter, next, rest, rfl, rfl, hinit, hrestarted.rewound.tdh, hempty, hvalue, hsent⟩

end Adapter

end NetStack
