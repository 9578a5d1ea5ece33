import NetStack.Bench.Action
import NetStack.Bench.Call
import NetStack.Nic.Emulated
import NetStack.Nic.Recorder

/-!
# Runs

A stack over a device is a system for cooperative runs, and so is a booted kernel. A run starts from
a device, set up with the host's addresses or with others.
-/

namespace NetStack.Bench

/-- A stack over a device as a system: waiting calls note the generation of the driver's condition,
and the registers are looked at after each step. -/
def stackSystem (β : Type) [Device β] : System (Stack β) Action Call Waiting Answer Status where
  act := act
  enter := enter
  resume := resume
  generation stack := stack.adapter.arrival.generation
  view stack := Status.ofDevice stack.adapter.bus

/-- Runs something on the stack of a kernel, if it has one. -/
def onStack {α : Type} (kernel : Kernel) (absent : α)
    (f : Stack Window → Logged (α × Stack Window)) : Logged (α × Kernel) :=
  match kernel.net.value? with
  | none => pure (absent, kernel)
  | some stack => do
    let (a, stack) ← f stack
    pure (a, { kernel with net := ⟨some stack⟩ })

/-- Runs an action on a kernel: those of the kernel itself, and all others on its stack. -/
def kernelAct (action : Action) (kernel : Kernel) : Logged (Answer × Kernel) :=
  match action with
  | .pciState slot => pure (.function (kernel.pci.function slot), kernel)
  | .reboot => do
    let first := kernel.net.isSet
    let (_, kernel) ← kernel.boot
    pure (.flag first, kernel)
  | .installed => pure (.flag kernel.net.isSet, kernel)
  | .interrupt => do
    let kernel ← kernel.interrupt
    pure (.ok, kernel)
  | action => onStack kernel .unsupported (act action)

/-- A kernel as a system. -/
def kernelSystem : System Kernel Action Call Waiting Answer Status where
  act := kernelAct
  enter call kernel := onStack kernel (.finished .unsupported) (enter call)
  resume waiting kernel := onStack kernel (.finished .unsupported) (resume waiting)
  generation kernel :=
    match kernel.net.value? with
    | some stack => stack.adapter.arrival.generation
    | none => 0
  view kernel := Status.ofDevice kernel.window

/-- The addresses that a stack is made with; absent ones are the host's. -/
structure Addresses where
  mac : Option Mac
  ip : Option Ipv4
  gateway : Option Mac
  deriving DecidableEq, Repr

/-- Sets up a device and makes a stack over it. -/
def setUp {β : Type} [Device β] (device : β) (addresses : Addresses) :
    Logged (Except SetupError (Stack β)) := do
  match ← Adapter.init device (addresses.mac.getD Host.mac) Heap.start with
  | .error error => pure (.error error)
  | .ok (adapter, _) =>
    pure (.ok (Stack.ofTransport {
      adapter
      localIp := addresses.ip.getD Host.ip
      gateway := addresses.gateway.getD Host.gateway }))

/-- Handles the emulated card before it is set up. Its base registers point nowhere yet; the rings
stand for memory that no driver uses. -/
def prepare (card : Emulated) (tx : TxRing) (rx : RxRing) :
    List Control → Logged (List Response × Emulated)
  | [] => pure ([], card)
  | control :: rest => do
    let (response, card, tx, rx) ← card.control tx rx control
    let (responses, card) ← prepare card tx rx rest
    pure (response :: responses, card)

/-- Handles the emulated card before it is set up, with unused memory. -/
def prepareCard (card : Emulated) (controls : List Control) : Logged (List Response × Emulated) :=
  prepare card (Ring.place UInt64.ofNat 0 0) (Ring.place UInt64.ofNat 0 0) controls

end NetStack.Bench
