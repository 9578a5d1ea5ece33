import NetStack.Bench.Run

/-!
# Setting things twice

A kernel that finds no card is offered a second yield hook, and two stacks one after the other. What
is offered first stays in use: the second socket is opened on the stack that has the first.
-/

namespace NetStack.Bench

/-- What is seen when a hook and a stack are offered twice. -/
structure Installation where
  hookSet : Bool
  /-- Whether the second hook was ignored. -/
  firstHookKept : Bool
  /-- Whether there was a stack before one was offered. -/
  stackBefore : Bool
  /-- Whether there was a stack after one was offered. -/
  stackAfter : Bool
  /-- Whether the second stack was ignored. -/
  firstStackKept : Bool
  /-- The descriptor opened after the first offer. -/
  first : Except Errno Nat
  /-- The descriptor opened after the second offer. -/
  second : Except Errno Nat

/-- Offers a stack, and opens a socket on the stack in use. -/
def installAndOpen (kernel : Kernel) (stack : Stack Window) : Except Errno Nat × Kernel :=
  let (used, kernel) := kernel.install stack
  match used.socket with
  | .ok (fd, used) => (.ok fd, { kernel with net := ⟨some used⟩ })
  | .error errno => (.error errno, kernel)

/-- Offers two hooks, an interrupt, and `stack` twice to a kernel that was not booted. -/
def installTwice (stack : Stack Window) : Installation :=
  let kernel := Kernel.start (Vector.replicate Pci.slotCount Pci.Function.absent)
  let (firstHook, kernel) := kernel.setYieldHook 1
  let (hook, kernel) := kernel.setYieldHook 2
  -- without a driver the interrupt reaches nobody
  let kernel := kernel.interrupt.value
  let (first, installed) := installAndOpen kernel stack
  let (second, _) := installAndOpen installed stack
  { hookSet := kernel.yieldHook.isSet
    firstHookKept := hook == firstHook
    stackBefore := kernel.net.isSet
    stackAfter := installed.net.isSet
    -- on a stack of its own the second socket would have the first descriptor again
    firstStackKept := second.toOption != first.toOption
    first
    second }

end NetStack.Bench
