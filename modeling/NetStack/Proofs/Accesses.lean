import NetStack.Nic.Adapter

/-!
# The driver, access by access

While the driver runs, its card may change the memory that they share between any two of the
driver's accesses. `Code` is a program that makes such accesses one after another, and
`Code.transmit` and `Code.look` are the driver's two ways to the rings written as such programs.
Slots and lengths are plain numbers there: an access has no outcome if its ring has no such slot, or
the buffer no such bytes.

Run over a register bus, with nobody else at the memory, the programs are the driver's own functions
(`run_transmit`, `run_look`), and a call that waits for a frame looks some number of times
(`exists_looks`).
-/

namespace NetStack

/-- An access to a ring. -/
inductive Ring.Touch (δ : Type) where
  /-- Reads a descriptor. -/
  | read (slot : Nat)
  /-- Writes a descriptor. -/
  | write (slot : Nat) (descriptor : δ)
  /-- Copies data over the start of a buffer. -/
  | load (slot : Nat) (data : Bytes)
  /-- Copies the first bytes of a buffer. -/
  | copy (slot count : Nat)

namespace Ring.Touch

variable {δ : Type} {n size : Nat}

/-- What an access gives back. -/
abbrev Answer : Touch δ → Type
  | read _ => δ
  | copy _ _ => Bytes
  | write _ _ | load _ _ => Unit

/-- Whether the ring has the slot, and the slot's buffer the bytes. -/
def InRange (n size : Nat) : Touch δ → Prop
  | read slot | write slot _ => slot < n
  | load slot data => slot < n ∧ data.length ≤ size
  | copy slot count => slot < n ∧ count ≤ size

instance (n size : Nat) : DecidablePred (InRange n size : Touch δ → Prop)
  | read _ | write _ _ => inferInstanceAs (Decidable (_ < _))
  | load _ _ | copy _ _ => inferInstanceAs (Decidable (_ ∧ _))

/-- Makes an access that is in range. -/
def perform (ring : Ring δ n size) :
    (touch : Touch δ) → touch.InRange n size → touch.Answer × Ring δ n size
  | read slot, h => (ring.descriptor ⟨slot, h⟩, ring)
  | write slot descriptor, h => ((), ring.setDescriptor ⟨slot, h⟩ descriptor)
  | load slot data, h => ((), ring.load ⟨slot, h.1⟩ data)
  | copy slot count, h => ((ring.buffer ⟨slot, h.1⟩).first count, ring)

end Ring.Touch

/-- The memory that a driver shares with its card. -/
structure Memory where
  tx : TxRing
  rx : RxRing

/-- An access of a driver, to a register or to the shared memory. -/
inductive Touch where
  | readRegister (reg : Reg)
  | writeRegister (reg : Reg) (value : UInt32)
  | tx (touch : Ring.Touch TxDescriptor)
  | rx (touch : Ring.Touch RxDescriptor)

namespace Touch

/-- What an access gives back. -/
abbrev Answer : Touch → Type
  | readRegister _ => UInt32
  | writeRegister _ _ => Unit
  | tx touch => touch.Answer
  | rx touch => touch.Answer

/-- Whether an access to a ring stays within it. -/
def InRange : Touch → Prop
  | readRegister _ | writeRegister _ _ => True
  | tx touch => touch.InRange Host.txRingSize Host.txBufferSize
  | rx touch => touch.InRange Host.rxRingSize Host.rxBufferSize

instance : DecidablePred InRange
  | readRegister _ | writeRegister _ _ => inferInstanceAs (Decidable True)
  | tx touch =>
    inferInstanceAs (Decidable (touch.InRange Host.txRingSize Host.txBufferSize))
  | rx touch =>
    inferInstanceAs (Decidable (touch.InRange Host.rxRingSize Host.rxBufferSize))

/-- Makes an access that is in range. A register reads as given, and keeps what is written to
itself. -/
def perform (reading : UInt32) (memory : Memory) :
    (touch : Touch) → touch.InRange → touch.Answer × Memory
  | readRegister _, _ => (reading, memory)
  | writeRegister _ _, _ => ((), memory)
  | tx touch, h =>
    let (answer, ring) := touch.perform memory.tx h
    (answer, { memory with tx := ring })
  | rx touch, h =>
    let (answer, ring) := touch.perform memory.rx h
    (answer, { memory with rx := ring })

variable {β : Type} [RegisterBus β]

/-- Makes an access over a register bus. -/
def performOn (bus : β) (memory : Memory) :
    (touch : Touch) → touch.InRange → touch.Answer × β × Memory
  | readRegister reg, _ =>
    let (value, bus) := RegisterBus.read bus reg
    (value, bus, memory)
  | writeRegister reg value, _ =>
    let (bus, ring) := (RegisterBus.write bus memory.tx reg value).value
    ((), bus, { memory with tx := ring })
  | tx touch, h =>
    let (answer, memory) := (Touch.tx touch).perform 0 memory h
    (answer, bus, memory)
  | rx touch, h =>
    let (answer, memory) := (Touch.rx touch).perform 0 memory h
    (answer, bus, memory)

/-- An access over a register bus, unless it is out of range. -/
def onBus (state : β × Memory) (touch : Touch) : Option (touch.Answer × β × Memory) :=
  if h : touch.InRange then some (touch.performOn state.1 state.2 h) else none

/-! What each access over a bus gives back and leaves. -/

variable {bus next : β} {memory : Memory}

theorem onBus_readRegister {reg : Reg} {value : UInt32}
    (h : RegisterBus.read bus reg = (value, next)) :
    onBus (bus, memory) (readRegister reg) = some (value, next, memory) := by
  have hrange : (readRegister reg).InRange := trivial
  unfold onBus
  rw [dif_pos hrange, performOn, h]

theorem onBus_writeRegister {ring changed : TxRing} {rx : RxRing} {reg : Reg} {value : UInt32}
    (h : (RegisterBus.write bus ring reg value).value = (next, changed)) :
    onBus (bus, ⟨ring, rx⟩) (writeRegister reg value) = some ((), next, ⟨changed, rx⟩) := by
  have hrange : (writeRegister reg value).InRange := trivial
  unfold onBus
  rw [dif_pos hrange, performOn, h]

theorem onBus_readTx {slot : Nat} (h : slot < Host.txRingSize) :
    onBus (bus, memory) (tx (.read slot)) = some (memory.tx.descriptor ⟨slot, h⟩, bus, memory) :=
  dif_pos h

theorem onBus_loadTx {slot : Nat} {data : Bytes} (h : slot < Host.txRingSize)
    (hfits : data.length ≤ Host.txBufferSize) : onBus (bus, memory) (tx (.load slot data)) =
      some ((), bus, { memory with tx := memory.tx.load ⟨slot, h⟩ data }) :=
  dif_pos ⟨h, hfits⟩

theorem onBus_writeTx {slot : Nat} (h : slot < Host.txRingSize) (descriptor : TxDescriptor) :
    onBus (bus, memory) (tx (.write slot descriptor)) =
      some ((), bus, { memory with tx := memory.tx.setDescriptor ⟨slot, h⟩ descriptor }) :=
  dif_pos h

theorem onBus_readRx {slot : Nat} (h : slot < Host.rxRingSize) :
    onBus (bus, memory) (rx (.read slot)) = some (memory.rx.descriptor ⟨slot, h⟩, bus, memory) :=
  dif_pos h

theorem onBus_copyRx {slot count : Nat} (h : slot < Host.rxRingSize)
    (hfits : count ≤ Host.rxBufferSize) : onBus (bus, memory) (rx (.copy slot count)) =
      some ((memory.rx.buffer ⟨slot, h⟩).first count, bus, memory) :=
  dif_pos ⟨h, hfits⟩

theorem onBus_writeRx {slot : Nat} (h : slot < Host.rxRingSize) (descriptor : RxDescriptor) :
    onBus (bus, memory) (rx (.write slot descriptor)) =
      some ((), bus, { memory with rx := memory.rx.setDescriptor ⟨slot, h⟩ descriptor }) :=
  dif_pos h

end Touch

/-- A program that makes accesses and ends with a result. -/
inductive Code (α : Type) where
  | done (result : α)
  | touch (touch : Touch) (rest : touch.Answer → Code α)

namespace Code

variable {α γ σ : Type}

/-- A program followed by another one. -/
def bind : Code α → (α → Code γ) → Code γ
  | done result, next => next result
  | touch made rest, next => touch made fun answer => (rest answer).bind next

instance : Monad Code where
  pure := done
  bind := bind

/-- Runs a program by a way to make accesses, up to its end or to an access that has no outcome. -/
def run (access : σ → (touch : Touch) → Option (touch.Answer × σ)) :
    Code α → σ → Option (α × σ)
  | done result, state => some (result, state)
  | touch made rest, state =>
    match access state made with
    | some (answer, state) => (rest answer).run access state
    | none => none

/-- Makes a single access. -/
def make (made : Touch) : Code made.Answer :=
  touch made done

/-- What the driver keeps to itself. -/
structure Own where
  /-- The last receive slot that was taken. -/
  last : Nat
  stats : Stats

/-- What a driver keeps to itself when it starts. -/
def Own.start : Own where
  last := Host.rxRingSize - 1
  stats := Stats.zero

/-- Hands a frame to the card, or refuses it. -/
def transmit (own : Own) (frame : Bytes) : Code (Except TransmitError Unit × Own) := do
  let refused := { own with stats := { own.stats with txDropped := own.stats.txDropped + 1 } }
  if Host.txBufferSize < frame.length then
    pure (.error (.frameTooLarge frame.length Host.txBufferSize), refused)
  else
    let tail ← make (.readRegister .tdt)
    let slot := tail.toNat % Host.txRingSize
    let descriptor ← make (.tx (.read slot))
    if descriptor.done then
      make (.tx (.load slot frame))
      make (.tx (.write slot (descriptor.submit frame.length)))
      make (.writeRegister .tdt (UInt32.ofNat ((slot + 1) % Host.txRingSize)))
      let stats := { own.stats with
        txPackets := own.stats.txPackets + 1
        txBytes := own.stats.txBytes + frame.length }
      pure (.ok (), { own with stats })
    else
      pure (.error .ringFull, refused)

/-- Gives a receive slot back to the card, with its address and nothing else. -/
def giveBack (slot : Nat) (address : UInt64) : Code Unit := do
  make (.rx (.write slot (RxDescriptor.armed address)))
  make (.writeRegister .rdt (UInt32.ofNat slot))

/-- Looks at the slot behind the last one taken. The descriptor is read once for its status, and
once more for what it reports. -/
def look (own : Own) : Code (Poll × Own) := do
  let slot := (own.last + 1) % Host.rxRingSize
  let seen ← make (.rx (.read slot))
  if seen.done then
    let descriptor ← make (.rx (.read slot))
    let length := descriptor.length.toNat
    if length ≤ Host.rxBufferSize then
      let bytes ← make (.rx (.copy slot length))
      giveBack slot descriptor.address
      let stats := { own.stats with
        rxPackets := own.stats.rxPackets + 1
        rxBytes := own.stats.rxBytes + length }
      pure (.frame bytes, ⟨slot, stats⟩)
    else
      giveBack slot descriptor.address
      let stats := { own.stats with rxDropped := own.stats.rxDropped + 1 }
      pure (.dropped, ⟨slot, stats⟩)
  else
    pure (.idle, own)

/-- A program goes on with what its first access gives back. -/
theorem run_make {access : σ → (touch : Touch) → Option (touch.Answer × σ)} {state next : σ}
    {made : Touch} {answer : made.Answer} (h : access state made = some (answer, next))
    (rest : made.Answer → Code α) :
    (make made >>= rest).run access state = (rest answer).run access next := by
  show (touch made rest).run access state = _
  rw [run, h]

/-- Over a bus, a slot that is given back is written before the tail. -/
theorem run_giveBack {β : Type} [RegisterBus β] {bus next : β} {memory : Memory} {ring : TxRing}
    {slot : Nat} (h : slot < Host.rxRingSize) (address : UInt64)
    (hwrite : (RegisterBus.write bus memory.tx .rdt (UInt32.ofNat slot)).value = (next, ring))
    (rest : Unit → Code α) :
    (giveBack slot address >>= rest).run Touch.onBus (bus, memory) =
      (rest ()).run Touch.onBus
        (next, ⟨ring, memory.rx.setDescriptor ⟨slot, h⟩ (RxDescriptor.armed address)⟩) := by
  show (make (.rx (.write slot (RxDescriptor.armed address))) >>= fun _ =>
    make (.writeRegister .rdt (UInt32.ofNat slot)) >>= rest).run Touch.onBus (bus, memory) = _
  rw [run_make (Touch.onBus_writeRx h _), run_make (Touch.onBus_writeRegister hwrite)]

end Code

namespace Adapter

variable {β : Type} [RegisterBus β]

/-- What a driver keeps to itself. -/
def own (adapter : Adapter β) : Code.Own where
  last := adapter.last.val
  stats := adapter.stats

/-- The rings of a driver. -/
def memory (adapter : Adapter β) : Memory where
  tx := adapter.tx
  rx := adapter.rx

/-- With nobody else at the memory, the program that transmits is the driver's transmission. -/
theorem run_transmit {adapter next : Adapter β} {frame : Bytes}
    {outcome : Except TransmitError Unit}
    (h : (adapter.transmit frame).value = (outcome, next)) :
    (Code.transmit adapter.own frame).run Touch.onBus (adapter.bus, adapter.memory) =
      some ((outcome, next.own), next.bus, next.memory) := by
  unfold transmit at h
  unfold Code.transmit
  by_cases hlong : Host.txBufferSize < frame.length
  · simp only [hlong, if_true] at h ⊢
    cases h
    rfl
  · have hfits := Nat.not_lt.1 hlong
    rcases hread : RegisterBus.read adapter.bus .tdt with ⟨tail, bus⟩
    have hslot : tail.toNat % Host.txRingSize < Host.txRingSize :=
      Nat.mod_lt _ Host.txRingSize_pos
    -- reading the tail does not change the rings, so that both find the same descriptor
    simp only [hlong, if_false, hread] at h ⊢
    rw [Code.run_make (Touch.onBus_readRegister hread), Code.run_make (Touch.onBus_readTx hslot)]
    rw [show Slot.wrap tail Host.txRingSize_pos = ⟨_, hslot⟩ from rfl] at h
    by_cases hdone : (adapter.tx.descriptor ⟨_, hslot⟩).done = true
    · simp only [hdone, if_true, Logged.value_bind] at h
      cases h
      have hdone' : (adapter.memory.tx.descriptor ⟨_, hslot⟩).done = true := hdone
      rw [if_pos hdone', Code.run_make (Touch.onBus_loadTx hslot hfits),
        Code.run_make (Touch.onBus_writeTx hslot _), Code.run_make (Touch.onBus_writeRegister rfl)]
      rfl
    · simp only [hdone] at h
      cases h
      have hdone' : ¬(adapter.memory.tx.descriptor ⟨_, hslot⟩).done = true := hdone
      rw [if_neg hdone']
      rfl

/-- With nobody else at the memory, the program that looks at a slot is the driver's look. -/
theorem run_look {adapter next : Adapter β} {found : Poll}
    (h : adapter.poll.value = (found, next)) :
    (Code.look adapter.own).run Touch.onBus (adapter.bus, adapter.memory) =
      some ((found, next.own), next.bus, next.memory) := by
  have hslot : (adapter.last.val + 1) % Host.rxRingSize < Host.rxRingSize :=
    Nat.mod_lt _ Host.rxRingSize_pos
  unfold poll at h
  unfold Code.look
  rw [show Slot.next adapter.last = ⟨_, hslot⟩ from rfl] at h
  dsimp only [own, memory] at h ⊢
  rw [Code.run_make (Touch.onBus_readRx hslot)]
  by_cases hdone : (adapter.rx.descriptor ⟨_, hslot⟩).done = true
  · -- with nobody else at the memory, the second reading finds what the first one did
    rw [if_pos hdone, Code.run_make (Touch.onBus_readRx hslot)]
    simp only [hdone, if_true, Logged.value_bind] at h
    by_cases hlength : (adapter.rx.descriptor ⟨_, hslot⟩).length.toNat ≤ Host.rxBufferSize
    · simp only [hlength, if_true] at h
      cases h
      dsimp only
      rw [if_pos hlength, Code.run_make (Touch.onBus_copyRx hslot hlength),
        Code.run_giveBack hslot _ rfl]
      rfl
    · simp only [hlength, if_false] at h
      cases h
      rw [if_neg hlength, Code.run_giveBack hslot _ rfl]
      rfl
  · simp only [hdone] at h
    cases h
    rw [if_neg hdone]
    rfl

/-- A driver that has looked at its next slot some number of times. -/
def looked (adapter : Adapter β) : Nat → Adapter β
  | 0 => adapter
  | count + 1 => adapter.poll.value.2.looked count

/-- A call that waits for a frame looks some number of times, and does nothing else. -/
theorem exists_looks (adapter : Adapter β) (stop : Stop) :
    ∃ count, (adapter.waitFrame stop).value.2.2 = adapter.looked count := by
  fun_induction waitFrame adapter stop with
  | case1 => exact ⟨0, rfl⟩
  | case2 adapter _ _ _ next hpoll => exact ⟨0, rfl⟩
  | case3 adapter _ _ _ bytes next hpoll =>
    -- the look that finds a frame is the last one
    refine ⟨1, ?_⟩
    show next = adapter.poll.value.2
    rw [hpoll]
  | case4 adapter _ _ _ next hpoll _ ih =>
    -- a frame that is dropped does not end the call
    obtain ⟨count, hcount⟩ := ih
    refine ⟨count + 1, ?_⟩
    show _ = adapter.poll.value.2.looked count
    rw [hpoll, Logged.value_after, hcount]

/-- The programs are a driver's own functions over a bus, as long as nobody else is at the memory.
-/
structure RunsCode (β : Type) [RegisterBus β] : Prop where
  start : ∀ (bus : β) (mac : Mac) (tx : TxRing) (rx : RxRing),
    (Adapter.start bus mac tx rx).value.own = Code.Own.start
  transmit : ∀ (adapter : Adapter β) (frame : Bytes),
    let (outcome, next) := (adapter.transmit frame).value
    (Code.transmit adapter.own frame).run Touch.onBus (adapter.bus, adapter.memory) =
      some ((outcome, next.own), next.bus, next.memory)
  look : ∀ adapter : Adapter β,
    let (found, next) := adapter.poll.value
    (Code.look adapter.own).run Touch.onBus (adapter.bus, adapter.memory) =
      some ((found, next.own), next.bus, next.memory)
  /-- A call that waits for a frame looks some number of times, and does nothing else. -/
  wait : ∀ (adapter : Adapter β) (stop : Stop),
    ∃ count, (adapter.waitFrame stop).value.2.2 = adapter.looked count

/-- A driver over any bus runs the programs. -/
theorem runsCode (β : Type) [RegisterBus β] : RunsCode β where
  start _ _ _ _ := rfl
  transmit _ _ := run_transmit rfl
  look _ := run_look rfl
  wait := exists_looks

end Adapter

end NetStack
