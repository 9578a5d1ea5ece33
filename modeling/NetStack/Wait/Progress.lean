/-!
# Progress of waiting calls

A call that may have to wait runs until it has its answer, until it is told to stop, or until it has
to wait. Whether to stop is asked before each attempt, and the caller may run out of patience.
-/

namespace NetStack

/-- When a waiting caller gives up. -/
inductive Stop where
  /-- Not before a frame has come. -/
  | never
  /-- When asked for the time after `questions` more times. -/
  | after (questions : Nat)
  deriving DecidableEq, Repr

/-- Asks whether to go on: what is left of the question's patience, or nothing if it is time to
stop. -/
def Stop.ask : Stop → Option Stop
  | never => some never
  | after 0 => none
  | after (questions + 1) => some (after questions)

/-- How far a call that may have to wait has come. -/
inductive Progress (α : Type) where
  /-- The call has its answer. -/
  | done (answer : α)
  /-- The call was told to stop. -/
  | stopped
  /-- The call has to wait. -/
  | waiting
  deriving DecidableEq, Repr

end NetStack
