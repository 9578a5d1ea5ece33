import NetStack.Nic.Device
import NetStack.Wait.Condition
import NetStack.Wait.Progress

/-!
# The driver

An adapter owns a register bus, the two rings and the receive cursor. Transmission never waits: a
frame goes to the slot at the tail, or is refused. Reception takes frames in ring order; a caller
that finds no frame waits for the adapter's condition, which an interrupt and a wake-up broadcast.
`ready_lt_of_waitFrame` says that every received frame leaves the ring emptier, which bounds the
work between two waits.
-/

namespace NetStack

/-- The counters of an adapter. They are kept in 64 bits: the laws that count with them say how long
they fit. -/
structure Stats where
  rxPackets : Nat
  txPackets : Nat
  rxBytes : Nat
  txBytes : Nat
  rxDropped : Nat
  txDropped : Nat
  deriving DecidableEq, Repr

/-- Counters that have counted nothing. -/
def Stats.zero : Stats := ⟨0, 0, 0, 0, 0, 0⟩

/-- The counters of transmission have room in their 64 bits for this much more. -/
structure Stats.TxFits (stats : Stats) (packets bytes drops : Nat) : Prop where
  packets : stats.txPackets + packets < UInt64.size
  bytes : stats.txBytes + bytes < UInt64.size
  drops : stats.txDropped + drops < UInt64.size

/-- The counters of reception have room in their 64 bits for this much more. -/
structure Stats.RxFits (stats : Stats) (packets bytes drops : Nat) : Prop where
  packets : stats.rxPackets + packets < UInt64.size
  bytes : stats.rxBytes + bytes < UInt64.size
  drops : stats.rxDropped + drops < UInt64.size

/-- What a look at the next receive slot finds. -/
inductive Poll where
  /-- The slot still belongs to the card. -/
  | idle
  /-- The slot held a frame longer than its buffer, and was given back. -/
  | dropped
  /-- The slot held this frame, and was given back. -/
  | frame (bytes : Bytes)
  deriving DecidableEq, Repr

/-- A driver over a register bus. -/
structure Adapter (β : Type) where
  bus : β
  mac : Mac
  tx : TxRing
  rx : RxRing
  /-- The last receive slot that was taken. -/
  last : Fin Host.rxRingSize
  stats : Stats
  /-- What callers without a frame wait for. -/
  arrival : Condition

namespace Adapter

variable {β : Type} [RegisterBus β]

/-- The register values that set a card up, in the order of writing. -/
def program (mac : Mac) (tx : TxRing) (rx : RxRing) : List (Reg × UInt32) :=
  let (low, high) := receiveAddress mac
  [ (.tdbal, UInt32.ofNat tx.tableBus.toNat),
    (.tdbah, UInt32.ofNat (tx.tableBus.toNat / UInt32.size)),
    (.tdlen, Ring.tableBytes Host.txRingSize),
    (.tdh, 0),
    (.tdt, 0),
    (.tctl, Bits.txControl),
    (.tipg, Bits.txGap),
    (.ral, low),
    (.rah, high) ] ++
  (List.finRange multicastWords).map (fun word => (.mta word, 0)) ++
  [ (.rdbal, UInt32.ofNat rx.tableBus.toNat),
    (.rdbah, UInt32.ofNat (rx.tableBus.toNat / UInt32.size)),
    (.rdh, 0),
    (.rdt, Slot.toWord (Slot.last Host.rxRingSize Host.rxRingSize_pos)),
    (.rdlen, Ring.tableBytes Host.rxRingSize),
    (.rctl, Bits.rxControl),
    (.rdtr, 0),
    (.radv, 0),
    (.ims, Bits.causeReceived) ]

/-- Writes registers one after another. -/
def writeAll (bus : β) (tx : TxRing) : List (Reg × UInt32) → Logged (β × TxRing)
  | [] => pure (bus, tx)
  | (reg, value) :: rest => do
    let (bus, tx) ← RegisterBus.write bus tx reg value
    writeAll bus tx rest

/-- Sets up the card on a bus with the given rings. -/
def start (bus : β) (mac : Mac) (tx : TxRing) (rx : RxRing) : Logged (Adapter β) := do
  let (bus, tx) ← writeAll bus tx (program mac tx rx)
  Logged.note .info
    s!"e1000: rings programmed tx={Host.txRingSize} rx={Host.rxRingSize} mac={mac}"
  pure {
    bus, mac, tx, rx
    last := Slot.last Host.rxRingSize Host.rxRingSize_pos
    stats := Stats.zero
    arrival := Condition.start }

/-- Takes the rings from the heap and sets up the card on a bus. -/
def init (bus : β) (mac : Mac) (heap : Heap) : Logged (Except SetupError (Adapter β × Heap)) :=
  let onBus := RegisterBus.busAddress bus
  match Ring.create onBus heap with
  | .error error => pure (.error error)
  | .ok ((tx : TxRing), heap) =>
    match Ring.create onBus heap with
    | .error error => pure (.error error)
    | .ok ((rx : RxRing), heap) => do
      let adapter ← start bus mac tx rx
      pure (.ok (adapter, heap))

/-- The adapter with a refused transmission counted. -/
def countTxDropped (adapter : Adapter β) : Adapter β :=
  { adapter with stats := { adapter.stats with txDropped := adapter.stats.txDropped + 1 } }

/-- Hands a frame to the card, or refuses it. The frame is copied to the buffer of the tail's slot,
its descriptor is handed over, and the tail moves on. -/
def transmit (adapter : Adapter β) (frame : Bytes) :
    Logged (Except TransmitError Unit × Adapter β) := do
  if Host.txBufferSize < frame.length then
    Logged.note .warn s!"e1000: frame of {frame.length} bytes too large"
    pure (.error (.frameTooLarge frame.length Host.txBufferSize), adapter.countTxDropped)
  else
    let (tail, bus) := RegisterBus.read adapter.bus .tdt
    let slot := Slot.wrap tail Host.txRingSize_pos
    let descriptor := adapter.tx.descriptor slot
    if descriptor.done then
      -- the data and the descriptor are in place before the tail moves
      let tx := (adapter.tx.load slot frame).setDescriptor slot (descriptor.submit frame.length)
      let (bus, tx) ← RegisterBus.write bus tx .tdt (Slot.toWord (Slot.next slot))
      let stats := { adapter.stats with
        txPackets := adapter.stats.txPackets + 1
        txBytes := adapter.stats.txBytes + frame.length }
      pure (.ok (), { adapter with bus, tx, stats })
    else
      Logged.note .warn "e1000: tx ring overflow"
      pure (.error .ringFull, { adapter with bus }.countTxDropped)

/-- Looks at the slot behind the last one taken. A slot that holds a frame is given back to the
card, with its address and nothing else, and the tail moves there. -/
def poll (adapter : Adapter β) : Logged (Poll × Adapter β) := do
  let slot := Slot.next adapter.last
  let descriptor := adapter.rx.descriptor slot
  if descriptor.done then
    let length := descriptor.length.toNat
    let frame := (adapter.rx.buffer slot).first length
    -- the frame is copied out, and the slot is the card's again whatever its length
    let rx := adapter.rx.rearm slot
    let (bus, tx) ← RegisterBus.write adapter.bus adapter.tx .rdt (Slot.toWord slot)
    let taken := { adapter with bus, tx, rx, last := slot }
    if length ≤ Host.rxBufferSize then
      Logged.note .debug s!"e1000: rx index={slot.val} len={length}"
      let stats := { adapter.stats with
        rxPackets := adapter.stats.rxPackets + 1
        rxBytes := adapter.stats.rxBytes + length }
      pure (.frame frame, { taken with stats })
    else
      Logged.note .warn s!"e1000: rx index={slot.val} bad length {length}"
      let stats := { adapter.stats with rxDropped := adapter.stats.rxDropped + 1 }
      pure (.dropped, { taken with stats })
  else
    pure (.idle, adapter)

/-- The number of received frames that are in the ring. -/
def ready (adapter : Adapter β) : Nat :=
  adapter.rx.ready

/-- Taking a slot leaves one frame less in the ring. -/
theorem ready_lt_of_poll {adapter next : Adapter β} {found : Poll}
    (h : adapter.poll.value = (found, next)) (hfound : found ≠ .idle) :
    next.ready < adapter.ready := by
  by_cases hdone : (adapter.rx.descriptor (Slot.next adapter.last)).done = true
  · have hlt := adapter.rx.ready_rearm_lt (Slot.next adapter.last) hdone
    simp only [poll, hdone, if_true, Logged.value_bind] at h
    split at h <;> cases h <;> exact hlt
  · simp only [poll, hdone] at h
    cases h
    exact absurd rfl hfound

/-- Takes the next frame from the ring. Before each look at a slot the caller is asked whether to
stop; overlong frames are passed over; without a frame the call has to wait. What is left of the
caller's patience is handed back. -/
def waitFrame (adapter : Adapter β) (stop : Stop) : Logged (Progress Bytes × Stop × Adapter β) :=
  match stop.ask with
  | none => pure (.stopped, stop, adapter)
  | some stop =>
    match hpoll : adapter.poll.value with
    | (.idle, _) => pure (.waiting, stop, adapter)
    | (.frame bytes, next) => ⟨(.done bytes, stop, next), adapter.poll.records⟩
    | (.dropped, next) =>
      have : next.ready < adapter.ready := ready_lt_of_poll hpoll (by simp)
      (next.waitFrame stop).after adapter.poll.records
termination_by adapter.ready

/-- A received frame leaves the ring emptier. -/
theorem ready_lt_of_waitFrame {adapter next : Adapter β} {stop rest : Stop} {bytes : Bytes}
    (h : (adapter.waitFrame stop).value = (.done bytes, rest, next)) :
    next.ready < adapter.ready := by
  fun_induction waitFrame adapter stop with
  | case1 => cases h
  | case2 => cases h
  | case3 adapter _ _ _ _ _ hpoll =>
    cases h
    exact ready_lt_of_poll hpoll (by simp)
  | case4 adapter _ _ _ _ hpoll hlt ih => exact Nat.lt_trans (ih h) hlt

/-- Wakes all callers that wait for a frame. -/
def wake (adapter : Adapter β) : Adapter β :=
  { adapter with arrival := adapter.arrival.broadcast }

/-- Answers an interrupt: its cause is read, which the card takes as the answer, and all waiting
callers are woken. No data is moved. -/
def interrupt (adapter : Adapter β) : Logged (Adapter β) := do
  let (cause, bus) := RegisterBus.read adapter.bus .icr
  let causeText := Bytes.hexNat cause.toNat
  Logged.note .trace s!"e1000: intr cause=0x{causeText}"
  pure { adapter with bus }.wake

/-- A transmission leaves the receive ring alone. -/
@[simp] theorem rx_transmit (adapter : Adapter β) (frame : Bytes) :
    (adapter.transmit frame).value.2.rx = adapter.rx := by
  unfold transmit
  split
  · rfl
  · simp only
    split <;> rfl

end Adapter

end NetStack
