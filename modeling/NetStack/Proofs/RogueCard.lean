import NetStack.Proofs.Accesses
import NetStack.Proofs.Rings

/-!
# The driver on a card that does as it likes

A rogue card answers every register read with what it likes, and before each access of the driver it
rewrites descriptors and buffers, all but the addresses in the descriptors. `Ensures` is what a
program comes to on such a card: it makes no access out of range, keeps all descriptors pointing
where they did, and ends in a given way. It has one rule for the end of a program and one for an
access (`Ensures.pure`, `Ensures.step`), and neither knows what the card did.

`ensures_transmit` and `ensures_look` follow the two programs of the driver by these rules, and
`tolerates_run` is what they mean for a run of transmissions and looks in any order.
-/

namespace NetStack

/-- Every descriptor of a ring points where it did. -/
def Ring.SameAddresses {δ : Type} {n size : Nat} [Descriptor δ] (ring other : Ring δ n size) :
    Prop :=
  ∀ slot, Descriptor.address (other.descriptor slot) = Descriptor.address (ring.descriptor slot)

namespace Ring.Touch

variable {δ : Type} {n size : Nat} [Descriptor δ]

/-- A descriptor that is written points where that of the ring does. -/
def Keeps (ring : Ring δ n size) : Touch δ → Prop
  | write slot descriptor => ∀ h : slot < n,
      Descriptor.address descriptor = Descriptor.address (ring.descriptor ⟨slot, h⟩)
  | _ => True

/-- An access that writes no other address keeps the addresses. -/
theorem sameAddresses_perform {origin ring : Ring δ n size} (h : origin.SameAddresses ring)
    {touch : Touch δ} (hkeeps : touch.Keeps origin) (hrange : touch.InRange n size) :
    origin.SameAddresses (touch.perform ring hrange).2 := by
  cases touch with
  | write slot descriptor =>
    intro other
    show Descriptor.address ((ring.setDescriptor ⟨slot, hrange⟩ descriptor).descriptor other) = _
    rw [descriptor_setDescriptor]
    by_cases hother : other = ⟨slot, hrange⟩
    · rw [if_pos hother, hother]
      exact hkeeps hrange
    · rw [if_neg hother]
      exact h other
  | read slot => exact h
  | load slot data => exact h
  | copy slot count => exact h

end Ring.Touch

namespace Memory

/-- Every descriptor points where it did. -/
structure SameAddresses (memory other : Memory) : Prop where
  tx : memory.tx.SameAddresses other.tx
  rx : memory.rx.SameAddresses other.rx

theorem SameAddresses.refl (memory : Memory) : memory.SameAddresses memory :=
  ⟨fun _ => rfl, fun _ => rfl⟩

theorem SameAddresses.trans {a b c : Memory} (h : a.SameAddresses b) (h' : b.SameAddresses c) :
    a.SameAddresses c :=
  ⟨fun slot => (h'.tx slot).trans (h.tx slot), fun slot => (h'.rx slot).trans (h.rx slot)⟩

/-- Nothing has changed but the descriptor of a transmit slot and the first bytes of its buffer. -/
structure ChangedAt (slot : Fin Host.txRingSize) (count : Nat) (memory other : Memory) :
    Prop where
  rx : other.rx = memory.rx
  descriptor : ∀ i, i ≠ slot → other.tx.descriptor i = memory.tx.descriptor i
  buffer : ∀ i, i ≠ slot → other.tx.buffer i = memory.tx.buffer i
  rest : (other.tx.buffer slot).bytes.drop count = (memory.tx.buffer slot).bytes.drop count

theorem ChangedAt.refl (slot : Fin Host.txRingSize) (count : Nat) (memory : Memory) :
    ChangedAt slot count memory memory :=
  ⟨rfl, fun _ _ => rfl, fun _ _ => rfl, rfl⟩

/-- A written descriptor is a change at its slot. -/
theorem changedAt_setDescriptor (memory : Memory) (slot : Fin Host.txRingSize) (count : Nat)
    (descriptor : TxDescriptor) : ChangedAt slot count memory
      { memory with tx := memory.tx.setDescriptor slot descriptor } := by
  refine ⟨rfl, fun i hi => ?_, fun _ _ => rfl, rfl⟩
  show (memory.tx.setDescriptor slot descriptor).descriptor i = memory.tx.descriptor i
  rw [Ring.descriptor_setDescriptor, if_neg hi]

/-- Loaded data is a change at its slot, as far as it reaches. -/
theorem changedAt_load (memory : Memory) (slot : Fin Host.txRingSize) {data : Bytes}
    (h : data.length ≤ Host.txBufferSize) : ChangedAt slot data.length memory
      { memory with tx := memory.tx.load slot data } := by
  refine ⟨rfl, fun _ _ => rfl, fun i hi => ?_, ?_⟩
  · show (memory.tx.load slot data).buffer i = memory.tx.buffer i
    rw [Ring.buffer_load, if_neg hi]
  · show ((memory.tx.load slot data).buffer slot).bytes.drop data.length = _
    rw [Ring.buffer_load, if_pos rfl]
    show (data.take Host.txBufferSize ++ _).drop data.length = _
    rw [List.take_of_length_le h]
    exact List.drop_left

end Memory

namespace Touch

/-- A descriptor that is written points where that of the memory does. -/
def Keeps (origin : Memory) : Touch → Prop
  | tx touch => touch.Keeps origin.tx
  | rx touch => touch.Keeps origin.rx
  | _ => True

/-- An access that writes no other address keeps the addresses. -/
theorem sameAddresses_perform {origin memory : Memory} (h : origin.SameAddresses memory)
    {touch : Touch} (hkeeps : touch.Keeps origin) (reading : UInt32) (hrange : touch.InRange) :
    origin.SameAddresses (touch.perform reading memory hrange).2 := by
  cases touch with
  | readRegister reg => exact h
  | writeRegister reg value => exact h
  | tx touch => exact ⟨Ring.Touch.sameAddresses_perform h.tx hkeeps hrange, h.rx⟩
  | rx touch => exact ⟨h.tx, Ring.Touch.sameAddresses_perform h.rx hkeeps hrange⟩

/-- Whether an access is one to the transmit ring. -/
def onTx : Touch → Bool
  | tx _ => true
  | _ => false

/-- Whether an access is one to the receive ring. -/
def onRx : Touch → Bool
  | rx _ => true
  | _ => false

/-- The register that an access writes, and its new value. -/
def written? : Touch → Option (Reg × UInt32)
  | writeRegister reg value => some (reg, value)
  | _ => none

end Touch

namespace Rogue

open Code (Own make)

/-- What a card does before an access of the driver. -/
structure Meddling where
  /-- What the next register reads as. -/
  reading : UInt32
  /-- What becomes of descriptors and buffers. -/
  rewrite : Memory → Memory
  sameAddresses : ∀ memory : Memory, memory.SameAddresses (rewrite memory)

/-- An access that was made: what it found, what it gave back, and what it left. -/
structure Event where
  found : Memory
  touch : Touch
  answer : touch.Answer
  left : Memory

/-- A card that does as it likes, knowing all that was done to it. -/
abbrev Card := List Event → Meddling

/-- The memory, and the accesses that were made to it. -/
structure World where
  memory : Memory
  past : List Event

/-- Makes an access after the card had its way, unless it is out of range. -/
def access (card : Card) (world : World) (touch : Touch) : Option (touch.Answer × World) :=
  let found := (card world.past).rewrite world.memory
  if h : touch.InRange then
    let (answer, left) := touch.perform (card world.past).reading found h
    some (answer, ⟨left, world.past ++ [⟨found, touch, answer, left⟩]⟩)
  else none

/-- What the transmit tail read as, if an access read it. -/
def Event.tail? : Event → Option UInt32
  | ⟨_, .readRegister .tdt, value, _⟩ => some value
  | _ => none

/-- An access in range, with all descriptors pointing where they did. -/
structure Event.Sound (origin : Memory) (event : Event) : Prop where
  inRange : event.touch.InRange
  found : origin.SameAddresses event.found
  left : origin.SameAddresses event.left

variable {α : Type} {card : Card} {origin : Memory} {world : World}

/-- On a rogue card a program comes to its end, makes sound accesses only, and ends with a result
and accesses as described. -/
def Ensures (card : Card) (origin : Memory) (world : World) (code : Code α)
    (post : α → List Event → Prop) : Prop :=
  ∃ result last events, code.run (access card) world = some (result, last) ∧
    last.past = world.past ++ events ∧ origin.SameAddresses last.memory ∧
    (∀ event ∈ events, event.Sound origin) ∧ post result events

/-- The end of a program. -/
theorem Ensures.pure {post : α → List Event → Prop} {result : α}
    (h : origin.SameAddresses world.memory) (hpost : post result []) :
    Ensures card origin world (pure result) post :=
  ⟨result, world, [], rfl, (List.append_nil _).symm, h, by simp, hpost⟩

/-- An access, whatever the card did before it. -/
theorem Ensures.step {post : α → List Event → Prop} {made : Touch} {rest : made.Answer → Code α}
    (h : origin.SameAddresses world.memory) (hrange : made.InRange) (hkeeps : made.Keeps origin)
    (hrest : ∀ reading found next, origin.SameAddresses found →
      origin.SameAddresses next.memory →
      let done := made.perform reading found hrange
      Ensures card origin next (rest done.1) fun result events =>
        post result (⟨found, made, done.1, done.2⟩ :: events)) :
    Ensures card origin world (make made >>= rest) post := by
  -- the card has its way first, and then the access is made to what it left
  have hfound := h.trans ((card world.past).sameAddresses world.memory)
  have hleft := Touch.sameAddresses_perform hfound hkeeps (card world.past).reading hrange
  have haccess : access card world made = _ := dif_pos hrange
  obtain ⟨result, last, events, hrun, hpast, hlast, hsound, hpost⟩ :=
    hrest (card world.past).reading ((card world.past).rewrite world.memory) ⟨_, _⟩ hfound hleft
  refine ⟨result, last, _ :: events, ?_, ?_, hlast, ?_, hpost⟩
  · rw [Code.run_make haccess]
    exact hrun
  · rw [hpast, List.append_assoc]
    rfl
  · intro event hmem
    rcases List.mem_cons.1 hmem with rfl | hlater
    · exact ⟨hrange, hfound, hleft⟩
    · exact hsound event hlater

/-! The rule for an access at each of the accesses that the driver makes. -/

section Rules

variable {post : α → List Event → Prop} (h : origin.SameAddresses world.memory)

include h

theorem Ensures.readRegister {reg : Reg} {rest : UInt32 → Code α}
    (hrest : ∀ value found next, origin.SameAddresses next.memory →
      Ensures card origin next (rest value) fun result events =>
        post result (⟨found, .readRegister reg, value, found⟩ :: events)) :
    Ensures card origin world (make (.readRegister reg) >>= rest) post :=
  .step h trivial trivial fun value found next _ => hrest value found next

theorem Ensures.writeRegister {reg : Reg} {value : UInt32} {rest : Unit → Code α}
    (hrest : ∀ found next, origin.SameAddresses next.memory →
      Ensures card origin next (rest ()) fun result events =>
        post result (⟨found, .writeRegister reg value, (), found⟩ :: events)) :
    Ensures card origin world (make (.writeRegister reg value) >>= rest) post :=
  .step h trivial trivial fun _ found next _ => hrest found next

theorem Ensures.readTx {slot : Nat} {rest : TxDescriptor → Code α} (hslot : slot < Host.txRingSize)
    (hrest : ∀ found next, origin.SameAddresses found → origin.SameAddresses next.memory →
      Ensures card origin next (rest (found.tx.descriptor ⟨slot, hslot⟩)) fun result events =>
        post result
          (⟨found, .tx (.read slot), found.tx.descriptor ⟨slot, hslot⟩, found⟩ :: events)) :
    Ensures card origin world (make (.tx (.read slot)) >>= rest) post :=
  .step h hslot trivial fun _ => hrest

theorem Ensures.loadTx {slot : Nat} {data : Bytes} {rest : Unit → Code α}
    (hslot : slot < Host.txRingSize) (hfits : data.length ≤ Host.txBufferSize)
    (hrest : ∀ found next, origin.SameAddresses next.memory →
      Ensures card origin next (rest ()) fun result events =>
        post result (⟨found, .tx (.load slot data), (),
          { found with tx := found.tx.load ⟨slot, hslot⟩ data }⟩ :: events)) :
    Ensures card origin world (make (.tx (.load slot data)) >>= rest) post :=
  .step h ⟨hslot, hfits⟩ trivial fun _ found next _ => hrest found next

theorem Ensures.writeTx {slot : Nat} {descriptor : TxDescriptor} {rest : Unit → Code α}
    (hslot : slot < Host.txRingSize)
    (haddress : descriptor.address = (origin.tx.descriptor ⟨slot, hslot⟩).address)
    (hrest : ∀ found next, origin.SameAddresses next.memory →
      Ensures card origin next (rest ()) fun result events =>
        post result (⟨found, .tx (.write slot descriptor), (),
          { found with tx := found.tx.setDescriptor ⟨slot, hslot⟩ descriptor }⟩ :: events)) :
    Ensures card origin world (make (.tx (.write slot descriptor)) >>= rest) post :=
  .step h hslot (fun _ => haddress) fun _ found next _ => hrest found next

theorem Ensures.readRx {slot : Nat} {rest : RxDescriptor → Code α} (hslot : slot < Host.rxRingSize)
    (hrest : ∀ found next, origin.SameAddresses found → origin.SameAddresses next.memory →
      Ensures card origin next (rest (found.rx.descriptor ⟨slot, hslot⟩)) fun result events =>
        post result
          (⟨found, .rx (.read slot), found.rx.descriptor ⟨slot, hslot⟩, found⟩ :: events)) :
    Ensures card origin world (make (.rx (.read slot)) >>= rest) post :=
  .step h hslot trivial fun _ => hrest

theorem Ensures.copyRx {slot count : Nat} {rest : Bytes → Code α}
    (hslot : slot < Host.rxRingSize) (hfits : count ≤ Host.rxBufferSize)
    (hrest : ∀ found next, origin.SameAddresses next.memory →
      let bytes := (found.rx.buffer ⟨slot, hslot⟩).first count
      Ensures card origin next (rest bytes) fun result events =>
        post result (⟨found, .rx (.copy slot count), bytes, found⟩ :: events)) :
    Ensures card origin world (make (.rx (.copy slot count)) >>= rest) post :=
  .step h ⟨hslot, hfits⟩ trivial fun _ found next _ => hrest found next

theorem Ensures.writeRx {slot : Nat} {descriptor : RxDescriptor} {rest : Unit → Code α}
    (hslot : slot < Host.rxRingSize)
    (haddress : descriptor.address = (origin.rx.descriptor ⟨slot, hslot⟩).address)
    (hrest : ∀ found next, origin.SameAddresses next.memory →
      Ensures card origin next (rest ()) fun result events =>
        post result (⟨found, .rx (.write slot descriptor), (),
          { found with rx := found.rx.setDescriptor ⟨slot, hslot⟩ descriptor }⟩ :: events)) :
    Ensures card origin world (make (.rx (.write slot descriptor)) >>= rest) post :=
  .step h hslot (fun _ => haddress) fun _ found next _ => hrest found next

end Rules

/-- What a transmission does on a rogue card. -/
inductive Transmits (frame : Bytes) : Except TransmitError Unit → List Event → Prop
  | tooLarge (h : Host.txBufferSize < frame.length) :
      Transmits frame (.error (.frameTooLarge frame.length Host.txBufferSize)) []
  | full {events : List Event}
      (hquiet : ∀ event ∈ events, event.left = event.found ∧ event.touch.written? = none)
      (hrx : ∀ event ∈ events, event.touch.onRx = false) : Transmits frame (.error .ringFull) events
  /-- The slot is the one that the tail read as, counted around the ring. -/
  | accepted {tail : UInt32} {events : List Event}
      (hread : events.filterMap Event.tail? = [tail])
      (hloaded : .tx (.load (tail.toNat % Host.txRingSize) frame) ∈ events.map Event.touch)
      (hslot : ∀ event ∈ events,
        Memory.ChangedAt (Slot.wrap tail Host.txRingSize_pos) frame.length event.found event.left)
      (hwritten : events.filterMap (·.touch.written?) =
        [(.tdt, UInt32.ofNat ((tail.toNat % Host.txRingSize + 1) % Host.txRingSize))])
      (hrx : ∀ event ∈ events, event.touch.onRx = false) : Transmits frame (.ok ()) events

/-- A transmission on a rogue card. -/
theorem ensures_transmit (own : Own) (frame : Bytes) (h : origin.SameAddresses world.memory) :
    Ensures card origin world (Code.transmit own frame) fun result events =>
      Transmits frame result.1 events := by
  unfold Code.transmit
  by_cases hlong : Host.txBufferSize < frame.length
  · simp only [hlong, if_true]
    exact .pure h (.tooLarge hlong)
  · have hfits := Nat.not_lt.1 hlong
    simp only [hlong, if_false]
    refine .readRegister h fun tail first next h => ?_
    -- whatever the tail reads as, the slot is one of the ring
    have hslot : tail.toNat % Host.txRingSize < Host.txRingSize :=
      Nat.mod_lt _ Host.txRingSize_pos
    refine .readTx h hslot fun seen next hseen h => ?_
    by_cases hdone : (seen.tx.descriptor ⟨_, hslot⟩).done = true
    · rw [if_pos hdone]
      -- the descriptor may have changed since it was read, but its address has not
      have haddress := hseen.tx ⟨_, hslot⟩
      refine .loadTx h hslot hfits fun before next h => ?_
      refine .writeTx h hslot haddress fun loaded next h => ?_
      refine .writeRegister h fun written next h => .pure h ?_
      refine .accepted rfl (by simp) ?_ rfl ?_
      · have hread := Memory.ChangedAt.refl (Slot.wrap tail Host.txRingSize_pos) frame.length
        have hload := before.changedAt_load (Slot.wrap tail Host.txRingSize_pos) hfits
        have hwrite := loaded.changedAt_setDescriptor (Slot.wrap tail Host.txRingSize_pos)
          frame.length ((seen.tx.descriptor ⟨_, hslot⟩).submit frame.length)
        simp only [List.forall_mem_cons]
        exact ⟨hread first, hread seen, hload, hwrite, hread written, by simp⟩
      · simp [Touch.onRx]
    · rw [if_neg hdone]
      refine .pure h (.full ?_ ?_)
      · simp [Touch.written?]
      · simp [Touch.onRx]

/-- An access that leaves the transmit side alone: the ring, and all registers but the receive
tail. -/
structure Event.OffTx (event : Event) : Prop where
  touch : event.touch.onTx = false
  tx : event.left.tx = event.found.tx
  written : ∀ reg value, event.touch.written? = some (reg, value) → reg = .rdt

/-- An access to the receive ring leaves the transmit side alone. -/
theorem Event.OffTx.of_rx {found left : Memory} {touch : Ring.Touch RxDescriptor}
    {answer : touch.Answer} (h : left.tx = found.tx) :
    Event.OffTx ⟨found, .rx touch, answer, left⟩ :=
  ⟨rfl, h, fun _ _ hwritten => by cases hwritten⟩

/-- Giving a slot back leaves the transmit side alone. -/
theorem ensures_giveBack {post : α → List Event → Prop} {slot : Nat} {address : UInt64}
    {rest : Unit → Code α} (h : origin.SameAddresses world.memory) (hslot : slot < Host.rxRingSize)
    (haddress : address = (origin.rx.descriptor ⟨slot, hslot⟩).address)
    (hrest : ∀ events next, (∀ event ∈ events, event.OffTx) → origin.SameAddresses next.memory →
      Ensures card origin next (rest ()) fun result later => post result (events ++ later)) :
    Ensures card origin world (Code.giveBack slot address >>= rest) post := by
  refine .writeRx h hslot haddress fun before next h => ?_
  refine .writeRegister h fun written next h => hrest [_, _] next ?_ h
  simp only [List.forall_mem_cons]
  refine ⟨.of_rx rfl, ⟨rfl, rfl, fun reg value hwritten => ?_⟩, by simp⟩
  cases hwritten
  rfl

/-- A look on a rogue card leaves the transmit side alone. -/
theorem ensures_look (own : Own) (h : origin.SameAddresses world.memory) :
    Ensures card origin world (Code.look own) fun _ events => ∀ event ∈ events, event.OffTx := by
  unfold Code.look
  have hslot : (own.last + 1) % Host.rxRingSize < Host.rxRingSize :=
    Nat.mod_lt _ Host.rxRingSize_pos
  refine .readRx h hslot fun first next hfirst h => ?_
  by_cases hdone : (first.rx.descriptor ⟨_, hslot⟩).done = true
  · rw [if_pos hdone]
    -- the second reading may report anything else, but the address has not changed
    refine .readRx h hslot fun seen next hseen h => ?_
    have haddress := hseen.rx ⟨_, hslot⟩
    by_cases hlength : (seen.rx.descriptor ⟨_, hslot⟩).length.toNat ≤ Host.rxBufferSize
    · simp only [hlength, if_true]
      refine .copyRx h hslot hlength fun copied next h => ?_
      refine ensures_giveBack h hslot haddress fun events next hevents h => .pure h ?_
      simp only [List.forall_mem_cons, List.append_nil]
      exact ⟨.of_rx rfl, .of_rx rfl, .of_rx rfl, hevents⟩
    · simp only [hlength, if_false]
      refine ensures_giveBack h hslot haddress fun events next hevents h => .pure h ?_
      simp only [List.forall_mem_cons, List.append_nil]
      exact ⟨.of_rx rfl, .of_rx rfl, hevents⟩
  · rw [if_neg hdone]
    refine .pure h ?_
    simp only [List.forall_mem_cons]
    exact ⟨.of_rx rfl, by simp⟩

/-- What the driver does between two moments at which it holds nothing. -/
inductive Turn where
  /-- A frame is offered for transmission. -/
  | transmit (frame : Bytes)
  /-- A call that waits for a frame looks at the next slot. -/
  | look

/-- Runs a turn on a card, unless it makes an access out of range. -/
def Turn.run (card : Card) (state : Own × World) : Turn → Option (Own × World)
  | transmit frame =>
    ((Code.transmit state.1 frame).run (access card) state.2).map fun ((_, own), world) =>
      (own, world)
  | look =>
    ((Code.look state.1).run (access card) state.2).map fun ((_, own), world) => (own, world)

/-- Runs turns on a card one after another. -/
def runAll (card : Card) (turns : List Turn) (state : Own × World) : Option (Own × World) :=
  turns.foldlM (fun state turn => turn.run card state) state

/-- Every access so far was sound, and all descriptors point where they did. -/
structure World.Sound (origin : Memory) (world : World) : Prop where
  memory : origin.SameAddresses world.memory
  past : ∀ event ∈ world.past, event.Sound origin

/-- A program that is ensured has its end, and a sound world stays so. -/
theorem Ensures.sound {post : α → List Event → Prop} {code : Code α}
    (h : Ensures card origin world code post) (hsound : world.Sound origin) :
    ∃ result last events, code.run (access card) world = some (result, last) ∧
      last.past = world.past ++ events ∧ last.Sound origin ∧ post result events := by
  obtain ⟨result, last, events, hrun, hpast, hmemory, hevents, hpost⟩ := h
  refine ⟨result, last, events, hrun, hpast, ⟨hmemory, ?_⟩, hpost⟩
  rw [hpast]
  intro event hmem
  rcases List.mem_append.1 hmem with hearlier | hlater
  · exact hsound.past event hearlier
  · exact hevents event hlater

/-- A turn comes to its end, and a sound world stays so. -/
theorem Turn.exists_run (card : Card) (turn : Turn) (own : Own) (hsound : world.Sound origin) :
    ∃ next last, turn.run card (own, world) = some (next, last) ∧ last.Sound origin := by
  cases turn with
  | transmit frame =>
    have hensures : Ensures card origin world _ _ := ensures_transmit own frame hsound.memory
    obtain ⟨⟨outcome, next⟩, last, -, hrun, -, hlast, -⟩ := hensures.sound hsound
    refine ⟨next, last, ?_, hlast⟩
    simp only [run, hrun, Option.map_some]
  | look =>
    have hensures : Ensures card origin world _ _ := ensures_look own hsound.memory
    obtain ⟨⟨found, next⟩, last, -, hrun, -, hlast, -⟩ := hensures.sound hsound
    refine ⟨next, last, ?_, hlast⟩
    simp only [run, hrun, Option.map_some]

/-- Turns come to their end one after another, and a sound world stays so. -/
theorem exists_runAll (card : Card) (turns : List Turn) (own : Own) (hsound : world.Sound origin) :
    ∃ next last, runAll card turns (own, world) = some (next, last) ∧ last.Sound origin := by
  induction turns generalizing own world with
  | nil => exact ⟨own, world, rfl, hsound⟩
  | cons turn turns ih =>
    obtain ⟨next, last, hturn, hlast⟩ := turn.exists_run card own hsound
    obtain ⟨final, rest, hrun, hrest⟩ := ih next hlast
    refine ⟨final, rest, ?_, hrest⟩
    unfold runAll
    rw [List.foldlM_cons, hturn]
    exact hrun

/-- The rings of a driver as they are taken from the heap: every descriptor points to the buffer of
its slot, as the card sees it. -/
theorem exists_created (onBus : Nat → UInt64) (heap : Heap) :
    ∃ (tx : TxRing) (rx : RxRing) (rest last : Heap),
      Ring.create onBus heap = .ok (tx, rest) ∧ Ring.create onBus rest = .ok (rx, last) ∧
      (∀ slot, (tx.descriptor slot).address = onBus (tx.bufferAddress slot)) ∧
      ∀ slot, (rx.descriptor slot).address = onBus (rx.bufferAddress slot) := by
  obtain ⟨txTable, txPool, rxTable, rxPool, rest, last, htx, hrx⟩ := exists_hostRings onBus heap
  refine ⟨_, _, rest, last, htx, hrx, fun slot => ?_, fun slot => ?_⟩
  · simp [Ring.descriptor, Ring.place, Ring.bufferAddress, Descriptor.armed, TxDescriptor.armed]
  · simp [Ring.descriptor, Ring.place, Ring.bufferAddress, Descriptor.armed, RxDescriptor.armed]

/-- Every descriptor points to where the card sees the buffer of its slot. -/
def Armed (onBus : Nat → UInt64) (origin memory : Memory) : Prop :=
  (∀ slot, (memory.tx.descriptor slot).address = onBus (origin.tx.bufferAddress slot)) ∧
    ∀ slot, (memory.rx.descriptor slot).address = onBus (origin.rx.bufferAddress slot)

/-- The driver tolerates any card. From setting up on, every run of transmissions and looks comes to
its end, whatever the registers read as and whatever is written to descriptors and buffers between
any two accesses. No access is out of range, every descriptor points to its own buffer at all times,
an accepted frame changes one transmit slot and the transmit tail, a full ring changes nothing, and
looking for frames leaves the transmit side alone. -/
theorem tolerates_run {β : Type} [RegisterBus β] (bus : β) (heap : Heap) :
    Adapter.RunsCode β ∧
    ∃ (tx : TxRing) (rx : RxRing) (rest last : Heap),
      Ring.create (RegisterBus.busAddress bus) heap = .ok (tx, rest) ∧
      Ring.create (RegisterBus.busAddress bus) rest = .ok (rx, last) ∧
      ∀ (card : Card) (turns : List Turn), ∃ own world,
        runAll card turns (Own.start, ⟨⟨tx, rx⟩, []⟩) = some (own, world) ∧
        (∀ event ∈ world.past, event.touch.InRange ∧
          Armed (RegisterBus.busAddress bus) ⟨tx, rx⟩ event.found ∧
          Armed (RegisterBus.busAddress bus) ⟨tx, rx⟩ event.left) ∧
        Armed (RegisterBus.busAddress bus) ⟨tx, rx⟩ world.memory ∧
        (∀ frame, ∃ outcome next after events,
          (Code.transmit own frame).run (access card) world = some ((outcome, next), after) ∧
          after.past = world.past ++ events ∧ Transmits frame outcome events) ∧
        ∃ found next after events,
          (Code.look own).run (access card) world = some ((found, next), after) ∧
          after.past = world.past ++ events ∧ ∀ event ∈ events, event.OffTx := by
  refine ⟨Adapter.runsCode β, ?_⟩
  obtain ⟨tx, rx, rest, last, htx, hrx, htxAddress, hrxAddress⟩ :=
    exists_created (RegisterBus.busAddress bus) heap
  refine ⟨tx, rx, rest, last, htx, hrx, fun card turns => ?_⟩
  have hstart : World.Sound ⟨tx, rx⟩ ⟨⟨tx, rx⟩, []⟩ := ⟨.refl _, by simp⟩
  obtain ⟨own, world, hrun, hsound⟩ := exists_runAll card turns Own.start hstart
  -- all memories of a run are compared with the rings as they were created
  have harmed {memory : Memory} (h : Memory.SameAddresses ⟨tx, rx⟩ memory) :
      Armed (RegisterBus.busAddress bus) ⟨tx, rx⟩ memory :=
    ⟨fun slot => (h.tx slot).trans (htxAddress slot),
      fun slot => (h.rx slot).trans (hrxAddress slot)⟩
  refine ⟨own, world, hrun, fun event hmem => ?_, harmed hsound.memory, fun frame => ?_, ?_⟩
  · obtain ⟨hrange, hfound, hleft⟩ := hsound.past event hmem
    exact ⟨hrange, harmed hfound, harmed hleft⟩
  · have hensures : Ensures card ⟨tx, rx⟩ world _ _ :=
      ensures_transmit own frame hsound.memory
    obtain ⟨⟨outcome, next⟩, after, events, hvalue, hpast, -, hpost⟩ := hensures.sound hsound
    exact ⟨outcome, next, after, events, hvalue, hpast, hpost⟩
  · have hensures : Ensures card ⟨tx, rx⟩ world _ _ := ensures_look own hsound.memory
    obtain ⟨⟨found, next⟩, after, events, hvalue, hpast, -, hpost⟩ := hensures.sound hsound
    exact ⟨found, next, after, events, hvalue, hpast, hpost⟩

end Rogue

end NetStack
