import Mathlib.Data.Nat.Find
import NetStack.Proofs.Receive
import NetStack.Proofs.SetUp

/-!
# Receiving from any ring

The emulated card announces no overlong frame. Here nothing is assumed of the card: descriptors and
buffers hold what they like, and the cursor is anywhere. A call for a frame passes over the overlong
slots behind the last one taken, giving each back to the card, and then takes a frame, or has to
wait at a slot that is still the card's.

`Consumed` is what giving back a number of slots in turn leaves behind; `Consumed.handBack` is its
step. `exists_passedOver` follows a call over its overlong slots. Behind a full turn of them the
call is back at a slot that it has given back itself, so it waits; `waitFrame_outcome` puts the
cases together.
-/

namespace NetStack

namespace Stats

end Stats

namespace Adapter

variable {β : Type}

variable [RegisterBus β]

/-- A driver before and after it gave back `count` slots in turn, its counters aside. -/
structure Consumed (count : Nat) (adapter next : Adapter β) : Prop where
  /-- The slots that were given back keep their address and nothing else, all others are as they
  were. -/
  descriptor : ∀ k < Host.rxRingSize, next.rx.descriptor (Slot.ahead adapter.last (k + 1)) =
    let before := adapter.rx.descriptor (Slot.ahead adapter.last (k + 1))
    if k < count then RxDescriptor.armed before.address else before
  /-- But for the descriptors the ring is as it was, buffers and places. -/
  ring : { next.rx with table := adapter.rx.table } = adapter.rx
  /-- The cursor is at the last of them. -/
  last : next.last = Slot.ahead adapter.last count
  /-- The card was told of each of them in turn, and of nothing else. -/
  written : (next.bus, next.tx) =
    (writeAll adapter.bus adapter.tx ((Slot.window id (Slot.next adapter.last) count).map
      fun slot => (.rdt, Slot.toWord slot))).value
  /-- A receive tail that shows what was last written to it shows the last of them. -/
  tail : ∀ shown : β → UInt32,
    (∀ bus tx value, shown (RegisterBus.write bus tx .rdt value).value.1 = value) →
    shown next.bus = if count = 0 then shown adapter.bus else Slot.toWord next.last
  mac : next.mac = adapter.mac
  arrival : next.arrival = adapter.arrival

/-- A driver that gave nothing back. -/
theorem Consumed.zero (adapter : Adapter β) : Consumed 0 adapter adapter where
  descriptor := fun _ _ => rfl
  ring := rfl
  last := (Slot.ahead_zero adapter.last).symm
  written := rfl
  tail := fun _ _ => rfl
  mac := rfl
  arrival := rfl

/-- Behind a full turn the next slot is one that was given back. -/
theorem Consumed.done_next {adapter next : Adapter β}
    (h : Consumed Host.rxRingSize adapter next) :
    (next.rx.descriptor (Slot.next next.last)).done = false := by
  have hfirst := h.descriptor 0 Host.rxRingSize_pos
  rw [if_pos Host.rxRingSize_pos] at hfirst
  rw [h.last, Slot.ahead_size, Slot.next_eq_ahead, hfirst, RxDescriptor.done_armed]

/-- No buffer is touched. -/
theorem Consumed.buffer {count : Nat} {adapter next : Adapter β}
    (h : Consumed count adapter next) (slot : Fin Host.rxRingSize) :
    next.rx.buffer slot = adapter.rx.buffer slot := by
  have hpool : next.rx.pool = adapter.rx.pool := (congrArg Ring.pool h.ring :)
  rw [Ring.buffer, hpool]
  rfl

/-- The receive tail of the emulated card is at the last slot that was given back. -/
theorem Consumed.rdt {count : Nat} {adapter next : Adapter Emulated}
    (h : Consumed count adapter next) :
    next.bus.registers.rdt =
      if count = 0 then adapter.bus.registers.rdt else Slot.toWord next.last :=
  h.tail (·.registers.rdt) fun _ _ _ => rfl

/-! ## What a look finds -/

end Adapter

end NetStack
