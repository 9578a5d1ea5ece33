import NetStack.Log

/-!
# Cooperative runs

Nothing runs in parallel. A run is a list of steps; a step is an action, which never waits, or a
call together with the events that may run while it waits. A call that has to wait notes the
generation of the system and yields. Each yield runs the next event to its end. If the generation
has changed by then, the call goes on, and may have to wait again; otherwise it yields again. A call
that yields with no event left is abandoned: what was done until then stays done. Events are steps
themselves, with events of their own.
-/

namespace NetStack

/-- A step of a run, over actions `α` and calls `κ`. -/
inductive Step (α κ : Type) where
  | act (action : α)
  | call (call : κ) (events : List (Step α κ))

/-- How far a call has come when it stops running. -/
inductive Attempt (ρ θ : Type) where
  /-- The call has its answer. -/
  | finished (answer : ρ)
  /-- The call waits, and this is what is left of it. -/
  | suspended (rest : θ)

/-- What is seen of a step: its answer, unless it was abandoned, a view of the system after it, and
the reports of the events that ran while it waited. -/
inductive Report (ρ ν : Type) where
  | mk (answer : Option ρ) (view : ν) (events : List (Report ρ ν))

/-- A system with states `σ` that runs actions `α` and calls `κ`. A suspended call is a `θ`; answers
are `ρ`, and what is seen of a state is a `ν`. -/
structure System (σ α κ θ ρ ν : Type) where
  /-- Runs an action. -/
  act : α → σ → Logged (ρ × σ)
  /-- Runs a call until it has its answer or has to wait. -/
  enter : κ → σ → Logged (Attempt ρ θ × σ)
  /-- Goes on with a call that was woken. -/
  resume : θ → σ → Logged (Attempt ρ θ × σ)
  /-- The generation that a waiting call notes. -/
  generation : σ → UInt64
  /-- What is seen of a state. -/
  view : σ → ν

namespace System

variable {σ α κ θ ρ ν : Type}

mutual

/-- Runs a step to its end. -/
def run (system : System σ α κ θ ρ ν) : Step α κ → σ → Logged (Report ρ ν × σ)
  | .act action, s => do
    let (answer, s) ← system.act action s
    pure (.mk (some answer) (system.view s) [], s)
  | .call call events, s => do
    let (attempt, s) ← system.enter call s
    match attempt with
    | .finished answer => pure (.mk (some answer) (system.view s) [], s)
    | .suspended rest =>
      let (answer, reports, s) ← system.yield rest (system.generation s) events s
      pure (.mk answer (system.view s) reports, s)

/-- Runs events while a call waits for the generation to change from `seen`, until the call has its
answer or no event is left. -/
def yield (system : System σ α κ θ ρ ν) (rest : θ) (seen : UInt64) :
    List (Step α κ) → σ → Logged (Option ρ × List (Report ρ ν) × σ)
  | [], s => pure (none, [], s)
  | event :: events, s => do
    let (report, s) ← system.run event s
    if system.generation s = seen then
      -- nothing was broadcast: the call goes on waiting
      let (answer, reports, s) ← system.yield rest seen events s
      pure (answer, report :: reports, s)
    else
      -- the call was woken, and a further wait notes the generation anew
      let (attempt, s) ← system.resume rest s
      match attempt with
      | .finished answer => pure (some answer, [report], s)
      | .suspended rest =>
        let (answer, reports, s) ← system.yield rest (system.generation s) events s
        pure (answer, report :: reports, s)

end

/-- Runs steps one after another, each with the records that were written while it ran. -/
def runAll (system : System σ α κ θ ρ ν) : List (Step α κ) → σ → List (Logged (Report ρ ν)) × σ
  | [], s => ([], s)
  | step :: steps, s =>
    let ⟨(report, s), records⟩ := system.run step s
    let (reports, s) := system.runAll steps s
    (⟨report, records⟩ :: reports, s)

/-! A call up to its first wait, and then event by event. -/

section Calls

variable {system : System σ α κ θ ρ ν} {call : κ} {rest again : θ} {seen : UInt64}
  {event : Step α κ} {events : List (Step α κ)} {s next last : σ} {report : Report ρ ν} {answer : ρ}

/-- A call that has its answer at once leaves its events alone. -/
theorem value_run_finished (henter : (system.enter call s).value = (.finished answer, next)) :
    (system.run (.call call events) s).value =
      (.mk (some answer) (system.view next) [], next) := by
  simp only [run, Logged.value_bind, henter, Logged.value_pure]

/-- A call that has to wait notes the generation and yields. -/
theorem value_run_suspended (henter : (system.enter call s).value = (.suspended rest, next)) :
    (system.run (.call call events) s).value =
      let (answer, reports, last) := (system.yield rest (system.generation next) events next).value
      (.mk answer (system.view last) reports, last) := by
  simp only [run, Logged.value_bind, henter, Logged.value_pure]

/-- An event that does not change the generation leaves the call waiting as before. -/
theorem value_yield_quiet (hrun : (system.run event s).value = (report, next))
    (hsame : system.generation next = seen) :
    (system.yield rest seen (event :: events) s).value =
      let (answer, reports, last) := (system.yield rest seen events next).value
      (answer, report :: reports, last) := by
  simp only [yield, Logged.value_bind, hrun, if_pos hsame, Logged.value_pure]

/-- A call that has its answer when it is woken leaves the other events alone. -/
theorem value_yield_finished (hrun : (system.run event s).value = (report, next))
    (hwoken : system.generation next ≠ seen)
    (hresume : (system.resume rest next).value = (.finished answer, last)) :
    (system.yield rest seen (event :: events) s).value = (some answer, [report], last) := by
  simp only [yield, Logged.value_bind, hrun, if_neg hwoken, hresume, Logged.value_pure]

/-- A call that is woken and waits again notes the generation anew. -/
theorem value_yield_suspended (hrun : (system.run event s).value = (report, next))
    (hwoken : system.generation next ≠ seen)
    (hresume : (system.resume rest next).value = (.suspended again, last)) :
    (system.yield rest seen (event :: events) s).value =
      let (answer, reports, last) :=
        (system.yield again (system.generation last) events last).value
      (answer, report :: reports, last) := by
  simp only [yield, Logged.value_bind, hrun, if_neg hwoken, hresume, Logged.value_pure]

end Calls

end System

end NetStack
