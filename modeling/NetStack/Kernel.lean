import NetStack.Nic.Window
import NetStack.Pci
import NetStack.Stack

/-!
# The kernel's network

The kernel has one network stack, one card that interrupts come from, and one hook through which
waiting calls yield. Each is set once; a later setting is ignored. Booting finds the card on the
bus, maps its registers and sets it up. Booting again programs the card anew, but the first driver
and the first stack stay in use.
-/

namespace NetStack

/-- A value that is set at most once. -/
structure OnceCell (α : Type) where
  value? : Option α
  deriving DecidableEq, Repr

namespace OnceCell

variable {α : Type}

/-- A cell that was not set. -/
def empty : OnceCell α := ⟨none⟩

/-- Whether the cell was set. -/
def isSet (cell : OnceCell α) : Bool := cell.value?.isSome

/-- Sets the cell unless it was set before; the answer is the value in use. -/
def set (cell : OnceCell α) (value : α) : α × OnceCell α :=
  match cell.value? with
  | some first => (first, cell)
  | none => (value, ⟨some value⟩)

end OnceCell

/-- The network side of a kernel. -/
structure Kernel where
  /-- The configuration window of bus 0. -/
  pci : Pci.Bus
  /-- The card's registers, as long as no driver uses them. -/
  registers : Window
  heap : Heap
  /-- Whether interrupts reach a driver. -/
  nicSet : Bool
  /-- The network stack. -/
  net : OnceCell (Stack Window)
  /-- The number of the hook through which waiting calls yield. -/
  yieldHook : OnceCell Nat

namespace Kernel

/-- A kernel that was not booted, over a bus and with its card's registers zero. -/
def start (pci : Pci.Bus) : Kernel where
  pci := pci
  registers := Window.zero Window.cardWords Host.registerBase.toUInt64
  heap := Heap.start
  nicSet := false
  net := OnceCell.empty
  yieldHook := OnceCell.empty

/-- Installs a stack unless there is one; the answer is the stack in use. -/
def install (kernel : Kernel) (stack : Stack Window) : Stack Window × Kernel :=
  let (used, net) := kernel.net.set stack
  (used, { kernel with net })

/-- Registers a yield hook unless there is one; the answer is the hook in use. -/
def setYieldHook (kernel : Kernel) (hook : Nat) : Nat × Kernel :=
  let (used, yieldHook) := kernel.yieldHook.set hook
  (used, { kernel with yieldHook })

/-- The card's registers, wherever they are. -/
def window (kernel : Kernel) : Window :=
  match kernel.net.value? with
  | some stack => stack.adapter.bus
  | none => kernel.registers

/-- Puts a set-up card into use. The stack that is in use keeps its driver and sees the registers as
they are now; without one, a new stack is made over the new driver. -/
def adopt (kernel : Kernel) (adapter : Adapter Window) : Kernel :=
  match kernel.net.value? with
  | some stack =>
    -- both drivers work on the same registers
    let kept := stack.withAdapter { stack.adapter with bus := adapter.bus }
    { kernel with net := ⟨some kept⟩, nicSet := true }
  | none =>
    let (_, kernel) := kernel.install (Stack.ofTransport (Transport.ofAdapter adapter))
    { kernel with nicSet := true }

/-- Finds the card, maps it to where the driver accesses its registers, sets it up and puts it into
use. The kernel cannot go on without a card. -/
def boot (kernel : Kernel) : Logged (Except SetupError Unit × Kernel) := do
  -- a base address has 32 bits, so the bus is told only the low half of the window's
  let (found, pci) ← Pci.probe kernel.pci kernel.window.base.toUInt32
  let kernel := { kernel with pci }
  match found with
  | .error error => pure (.error error, kernel)
  | .ok slot =>
    match ← Adapter.init kernel.window Host.mac kernel.heap with
    | .error error => pure (.error error, kernel)
    | .ok (adapter, heap) =>
      Logged.note .info s!"netinit: e1000 at slot {slot.val}, ip {Host.ip}"
      pure (.ok (), { kernel with heap }.adopt adapter)

/-- What the kernel stops with when it cannot boot. -/
def bootFailure (error : SetupError) : String :=
  s!"netinit: {error.message}"

/-- An interrupt of the card: without a driver it has no effect. -/
def interrupt (kernel : Kernel) : Logged Kernel :=
  match kernel.nicSet, kernel.net.value? with
  | true, some stack => do
    let adapter ← stack.adapter.interrupt
    pure { kernel with net := ⟨some (stack.withAdapter adapter)⟩ }
  | _, _ => pure kernel

end Kernel

end NetStack
