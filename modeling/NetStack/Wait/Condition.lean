/-!
# Conditions

Whoever has to wait notes the generation of a condition and waits until it has changed; a broadcast
changes it. Because the generation is noted before anything else can happen, a broadcast between the
note and the wait is not lost.
-/

namespace NetStack

/-- A condition that calls wait on. -/
structure Condition where
  /-- The number of broadcasts so far, wrapping. -/
  generation : UInt64
  deriving DecidableEq, Repr

namespace Condition

/-- A condition that was never broadcast. -/
def start : Condition := ⟨0⟩

/-- Wakes all who wait. -/
def broadcast (condition : Condition) : Condition :=
  ⟨condition.generation + 1⟩

/-- A broadcast changes the generation. -/
theorem generation_broadcast_ne (condition : Condition) :
    condition.broadcast.generation ≠ condition.generation := by
  intro h
  have h := congrArg UInt64.toNat h
  have hlt := condition.generation.toNat_lt
  simp only [broadcast, UInt64.toNat_add, UInt64.reduceToNat] at h
  omega

end Condition

end NetStack
