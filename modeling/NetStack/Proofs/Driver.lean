import NetStack.Proofs.Journal
import NetStack.Proofs.SetUp

/-!
# Runs of the driver

A driver over the emulated card as a system of its own: senders, the card's own side, interrupts and
wake-ups act on it, and callers wait for frames, in any order and nested to any depth. A caller that
is asked whether to stop says no some number of times before it says yes, if it ever does, so a
`Stop` is all that a run sees of it. What the journal of such a run tells about its frames is read
off the moves: which were accepted for transmission and which taken from the line, which came in and
which were returned.
-/

namespace NetStack.Driver

/-- What is done to a driver and its card without waiting. -/
inductive Operation where
  /-- A frame is offered for transmission, by a sender or as an ARP reply. -/
  | transmit (frame : Bytes)
  /-- The card completes up to `count` transmissions. -/
  | complete (count : Nat)
  /-- Whether the card completes transmissions by itself. -/
  | autoComplete (on : Bool)
  /-- The sent frames are taken from the line. -/
  | takeSent
  /-- A frame comes in from the line. -/
  | inject (frame : Bytes)
  | interrupt
  | wake

/-- What comes of an operation or of a wait. -/
inductive Outcome where
  | ok
  | sent (outcome : Except TransmitError Unit)
  | card (response : Response)
  | frame (bytes : Bytes)
  | stopped

/-- Handles the card of a driver from its own side. -/
def handle (adapter : Adapter Emulated) (control : Control) :
    Logged (Outcome × Adapter Emulated) := do
  let (response, bus, tx, rx) ← Device.control adapter.bus adapter.tx adapter.rx control
  pure (.card response, { adapter with bus, tx, rx })

/-- Runs an operation. -/
def act (operation : Operation) (adapter : Adapter Emulated) :
    Logged (Outcome × Adapter Emulated) :=
  match operation with
  | .transmit frame => do
    let (outcome, adapter) ← adapter.transmit frame
    pure (.sent outcome, adapter)
  | .complete count => handle adapter (.complete count)
  | .autoComplete on => handle adapter (.autoComplete on)
  | .takeSent => handle adapter .takeSent
  | .inject frame => handle adapter (.inject frame)
  | .interrupt => do
    let adapter ← adapter.interrupt
    pure (.ok, adapter)
  | .wake => pure (.ok, adapter.wake)

/-- Takes a frame, or waits for one. -/
def await (stop : Stop) (adapter : Adapter Emulated) :
    Logged (Attempt Outcome Stop × Adapter Emulated) := do
  let (progress, rest, adapter) ← adapter.waitFrame stop
  match progress with
  | .done frame => pure (.finished (.frame frame), adapter)
  | .stopped => pure (.finished .stopped, adapter)
  | .waiting => pure (.suspended rest, adapter)

/-- The driver as a system: its operations, and callers that wait for a frame. -/
def system : System (Adapter Emulated) Operation Stop Stop Outcome Unit where
  act := act
  enter := await
  resume := await
  generation adapter := adapter.arrival.generation
  view _ := ()

/-- A moment of a run of the driver. -/
abbrev Event := Moment (Adapter Emulated) Operation Stop Stop Outcome

namespace Event

/-- The frame that was accepted for transmission. -/
def accepted? (event : Event) : Option Bytes :=
  match event.move with
  | .act (.transmit frame) (.sent (.ok ())) => some frame
  | _ => none

/-- Whether a frame was refused for transmission. -/
def isRefused (event : Event) : Bool :=
  match event.move with
  | .act (.transmit _) (.sent (.error _)) => true
  | _ => false

/-- The sent frames that were taken from the line. -/
def taken (event : Event) : List Bytes :=
  match event.move with
  | .act .takeSent (.card (.frames frames)) => frames
  | _ => []

/-- The frame that came in and was not dropped. -/
def arrived? (event : Event) : Option Bytes :=
  match event.move with
  | .act (.inject frame) (.card (.flag true)) => some frame
  | _ => none

/-- The frame that was returned to a caller. -/
def returned? (event : Event) : Option Bytes :=
  match event.move with
  | .enter _ (.finished (.frame frame)) => some frame
  | .resume _ (.finished (.frame frame)) => some frame
  | _ => none

end Event

/-- Whoever waits for a frame leaves the transmit side alone. -/
theorem sameTx_await (stop : Stop) (adapter : Adapter Emulated) :
    adapter.SameTx (await stop adapter).value.2 := by
  have hsame := adapter.sameTx_waitFrame stop
  simp only [await, Logged.value_bind]
  split <;> exact hsame

/-- Every operation of a run is one of the driver's; what is entered, resumed or abandoned waits for
a frame. -/
theorem await_of_legal {sleeping : List (Sleeper Stop)} {event : Event}
    (h : system.Legal sleeping event) :
    (∃ operation outcome, event.move = .act operation outcome ∧
      (act operation event.before).value = (outcome, event.after)) ∨
    (∃ stop attempt, (event.move = .enter stop attempt ∨ event.move = .resume stop attempt) ∧
      (await stop event.before).value = (attempt, event.after)) ∨
    (∃ stop, event.move = .abandon stop ∧ event.after = event.before) := by
  obtain ⟨before, move, after⟩ := event
  cases move with
  | act operation outcome => exact .inl ⟨operation, outcome, rfl, h⟩
  | enter stop attempt => exact .inr (.inl ⟨stop, attempt, .inl rfl, h⟩)
  | resume stop attempt => exact .inr (.inl ⟨stop, attempt, .inr rfl, h.2⟩)
  | abandon stop => exact .inr (.inr ⟨stop, rfl, h.2⟩)

end NetStack.Driver
