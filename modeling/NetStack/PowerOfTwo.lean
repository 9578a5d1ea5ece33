/-!
# Powers of two

Descriptor rings have a power of two of descriptors. `isPowerOfTwo_iff` says that the test finds
exactly these numbers.
-/

namespace NetStack

/-- Whether a number is a power of two. -/
def isPowerOfTwo (n : Nat) : Bool :=
  n == 1 <<< n.log2

/-- The test finds exactly the powers of two. -/
theorem isPowerOfTwo_iff (n : Nat) : isPowerOfTwo n = true ↔ n.isPowerOfTwo := by
  simp only [isPowerOfTwo, beq_iff_eq, Nat.one_shiftLeft]
  refine ⟨fun h => ⟨_, h⟩, ?_⟩
  rintro ⟨k, rfl⟩
  rw [Nat.log2_two_pow]

end NetStack
