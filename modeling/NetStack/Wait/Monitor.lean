import NetStack.Wait.Condition
import NetStack.Wait.Schedule

/-!
# A guarded integer

The smallest system with waiting: an integer behind a lock, and a condition. A call takes the lock,
looks at the integer, and either has its answer or gives the lock back and waits. Between two steps
nobody holds the lock.
-/

namespace NetStack

/-- An integer, its lock and its condition. -/
structure Monitor where
  value : Int
  /-- Whether a call holds the lock. -/
  locked : Bool
  condition : Condition
  deriving DecidableEq, Repr

namespace Monitor

/-- Zero, unlocked, never broadcast. -/
def start : Monitor := ⟨0, false, Condition.start⟩

/-- What never waits. -/
inductive Action where
  | broadcast
  /-- Tells the generation. -/
  | generation
  /-- Tells whether the lock is held. -/
  | locked
  | set (value : Int)
  deriving DecidableEq, Repr

/-- What may have to wait. -/
inductive Call where
  /-- Waits once, whatever the integer is. -/
  | once
  /-- Waits as long as the integer is below `value`. -/
  | atLeast (value : Int)
  deriving DecidableEq, Repr

/-- A call that waits. -/
inductive Waiting where
  | once
  /-- The call has waited `waits` times, this one included. -/
  | atLeast (value : Int) (waits : Nat)
  deriving DecidableEq, Repr

/-- The answer of an action or a call. -/
inductive Answer where
  | ok
  | generation (n : UInt64)
  | flag (b : Bool)
  /-- The integer, and whether the caller held the lock when it returned. -/
  | waited (value : Int) (locked : Bool)
  /-- The integer, and how often the caller waited. -/
  | reached (value : Int) (waits : Nat)
  deriving DecidableEq, Repr

/-- The monitor with its lock taken. -/
def lock (monitor : Monitor) : Monitor := { monitor with locked := true }

/-- The monitor with its lock given back. -/
def unlock (monitor : Monitor) : Monitor := { monitor with locked := false }

/-- Runs an action. -/
def act : Action → Monitor → Answer × Monitor
  | .broadcast, monitor => (.ok, { monitor with condition := monitor.condition.broadcast })
  | .generation, monitor => (.generation monitor.condition.generation, monitor)
  | .locked, monitor => (.flag monitor.locked, monitor)
  | .set value, monitor => (.ok, { monitor with value })

/-- Looks at the integer under the lock: it is large enough, or the lock is given back for a further
wait. -/
def guard (value : Int) (waits : Nat) (monitor : Monitor) : Attempt Answer Waiting × Monitor :=
  if monitor.value < value then
    (.suspended (.atLeast value (waits + 1)), monitor.unlock)
  else
    (.finished (.reached monitor.value waits), monitor.unlock)

/-- Takes the lock for a call and runs it up to its first wait. -/
def enter : Call → Monitor → Attempt Answer Waiting × Monitor
  | .once, monitor => (.suspended .once, monitor.lock.unlock)
  | .atLeast value, monitor => guard value 0 monitor.lock

/-- Takes the lock again for a call that was woken, and goes on with it. -/
def resume : Waiting → Monitor → Attempt Answer Waiting × Monitor
  | .once, monitor =>
    let held := monitor.lock
    (.finished (.waited held.value held.locked), held.unlock)
  | .atLeast value waits, monitor => guard value waits monitor.lock

/-- The guarded integer as a system; its steps show nothing but their answers. -/
def system : System Monitor Action Call Waiting Answer Unit where
  act action monitor := pure (act action monitor)
  enter call monitor := pure (enter call monitor)
  resume waiting monitor := pure (resume waiting monitor)
  generation monitor := monitor.condition.generation
  view _ := ()

end Monitor

end NetStack
