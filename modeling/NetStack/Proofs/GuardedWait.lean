import Mathlib.Data.Nat.Count
import NetStack.Proofs.Journal
import NetStack.Wait.Monitor

/-!
# The guarded wait

`guarded` is the loop of a guarded wait with the lock written out: as long as the integer is below
the target, it notes the generation under the lock, gives the lock back, yields until the generation
has changed, and takes the lock again. Taking a lock that is held would block for ever, and giving
back a lock that is free is an error; `guarded` has no result then.

When the loop ends is read off the events alone. `after i` is the monitor when `i` events have run,
and an event wakes if it changes the generation, whatever its own events do meanwhile (`Wakes`).
`Waited` says that a call that waits ends after the first event that wakes and leaves the integer
large enough, and is abandoned if there is none. `waited_yield` goes through the events one by one,
and shows beside it that the loop and the run of the monitor as a system agree. `guarded_wait` puts
together what holds of a call in any run from the start.
-/

namespace NetStack.Monitor

/-! ## The loop -/

/-- Takes the lock if it is free. -/
def take? (monitor : Monitor) : Option Monitor :=
  if monitor.locked then none else some monitor.lock

/-- Gives the lock back if it is held. -/
def giveBack? (monitor : Monitor) : Option Monitor :=
  if monitor.locked then some monitor.unlock else none

/-- Yields to one event after another as long as the generation is `seen`: the monitor, and the
events that are left, or nothing if a yield finds no event. -/
def yieldWhile (seen : UInt64) :
    List (Step Action Call) → Monitor → Monitor × Option (List (Step Action Call))
  | [], monitor => (monitor, if monitor.condition.generation = seen then none else some [])
  | event :: events, monitor =>
    if monitor.condition.generation = seen then
      yieldWhile seen events (system.run event monitor).value.2
    else
      (monitor, some (event :: events))

/-- Waits once: notes the generation under the lock, gives the lock back, yields until the
generation has changed, and takes the lock again. A wait that finds no event left comes back without
the lock. -/
def wait (held : Monitor) (events : List (Step Action Call)) :
    Option (Monitor × Option (List (Step Action Call))) :=
  let seen := held.condition.generation
  held.giveBack?.bind fun free =>
    match yieldWhile seen events free with
    | (woken, some left) => woken.take?.map fun again => (again, some left)
    | (last, none) => some (last, none)

/-- How a guarded wait ends. -/
inductive Ending where
  /-- It returns, holding the lock, after it has waited `waits` times, and leaves the events `left`
  alone. -/
  | returned (held : Monitor) (waits : Nat) (left : List (Step Action Call))
  /-- A yield found no event. -/
  | abandoned (last : Monitor)

namespace Ending

/-- What the caller is told. -/
def answer? : Ending → Option Answer
  | returned held waits _ => some (.reached held.value waits)
  | abandoned _ => none

/-- The monitor once the caller has given the lock back. -/
def monitor : Ending → Monitor
  | returned held _ _ => held.unlock
  | abandoned last => last

/-- The events that did not run. -/
def left : Ending → List (Step Action Call)
  | returned _ _ left => left
  | abandoned _ => []

end Ending

/-- As long as it lasts, a loop of yields uses events up. -/
theorem length_left_le {seen : UInt64} {events left : List (Step Action Call)}
    {monitor woken : Monitor} (h : yieldWhile seen events monitor = (woken, some left)) :
    left.length ≤ events.length := by
  induction events generalizing monitor with
  | nil =>
    simp only [yieldWhile] at h
    split at h <;> cases h
    exact Nat.le_refl _
  | cons event events ih =>
    simp only [yieldWhile] at h
    split at h
    · exact Nat.le_succ_of_le (ih h)
    · cases h
      exact Nat.le_refl _

/-- A wait uses up at least one event. -/
theorem length_left_lt {held again : Monitor} {events left : List (Step Action Call)}
    (h : held.wait events = some (again, some left)) : left.length < events.length := by
  obtain ⟨free, hfree, h⟩ := Option.bind_eq_some_iff.1 h
  -- the generation is still the one that was just noted
  have hseen : free.condition.generation = held.condition.generation := by
    unfold giveBack? at hfree
    split at hfree <;> cases hfree
    rfl
  cases events with
  | nil =>
    rw [yieldWhile, if_pos hseen] at h
    cases h
  | cons event events =>
    rw [yieldWhile, if_pos hseen] at h
    split at h
    · next woken rest hyield =>
      obtain ⟨taken, -, heq⟩ := Option.map_eq_some_iff.1 h
      cases heq
      exact Nat.lt_succ_of_le (length_left_le hyield)
    · cases h

/-- Waits under the lock as long as the integer is below the target, having waited `waits` times
already. -/
def guarded (target : Int) (waits : Nat) (held : Monitor) (events : List (Step Action Call)) :
    Option Ending :=
  if held.value < target then
    match h : held.wait events with
    | none => none
    | some (last, none) => some (.abandoned last)
    | some (again, some left) => guarded target (waits + 1) again left
  else
    some (.returned held waits events)
termination_by events.length
decreasing_by exact length_left_lt h

/-! ## What the events do -/

/-- The monitor after the first `i` events. -/
def after (start : Monitor) (events : List (Step Action Call)) (i : Nat) : Monitor :=
  (system.runAll (events.take i) start).2

/-- The `i`-th event, counted from 0, changes the generation. -/
def Wakes (start : Monitor) (events : List (Step Action Call)) (i : Nat) : Prop :=
  (start.after events (i + 1)).condition.generation ≠ (start.after events i).condition.generation

instance (start : Monitor) (events : List (Step Action Call)) :
    DecidablePred (start.Wakes events) :=
  fun _ => inferInstanceAs (Decidable (_ ≠ _))

/-- How a call ends that has waited `waits` times and waits again. -/
inductive Waited (target : Int) (start : Monitor) (events : List (Step Action Call)) (waits : Nat) :
    Ending → Prop
  /-- It returns after the first event that wakes it and leaves the integer large enough, and has
  waited once more for each event that woke it. -/
  | returned (i : Nat) (hlt : i < events.length) (hwakes : start.Wakes events i)
      (hreached : target ≤ (start.after events (i + 1)).value)
      (hleast : ∀ j < i, start.Wakes events j → (start.after events (j + 1)).value < target) :
      Waited target start events waits
        (.returned (start.after events (i + 1)).lock
          (waits + Nat.count (start.Wakes events) (i + 1)) (events.drop (i + 1)))
  /-- It is abandoned after the last event if there is no such event. -/
  | abandoned
      (hnone : ∀ j < events.length, start.Wakes events j →
        (start.after events (j + 1)).value < target) :
      Waited target start events waits (.abandoned (start.after events events.length))

/-- The monitor after some events, seen from the first one. -/
theorem after_cons (start : Monitor) (event : Step Action Call) (events : List (Step Action Call))
    (i : Nat) :
    start.after (event :: events) (i + 1) = (system.run event start).value.2.after events i := rfl

/-- The first event wakes if the generation is another one after it. -/
theorem wakes_zero (start : Monitor) (event : Step Action Call)
    (events : List (Step Action Call)) :
    start.Wakes (event :: events) 0 ↔
      (system.run event start).value.2.condition.generation ≠ start.condition.generation :=
  Iff.rfl

/-- The events that wake are counted from the first one. -/
theorem count_wakes_cons (start : Monitor) (event : Step Action Call)
    (events : List (Step Action Call)) (i : Nat) :
    Nat.count (start.Wakes (event :: events)) (i + 1) =
      (if start.Wakes (event :: events) 0 then 1 else 0) +
        Nat.count ((system.run event start).value.2.Wakes events) i := by
  rw [Nat.count_succ', Nat.add_comm]
  rfl

/-- An event that does not let a call return puts off how the call ends: the call has waited once
more if the event woke it. -/
theorem Waited.cons {target : Int} {start : Monitor} {event : Step Action Call}
    {events : List (Step Action Call)} {waits : Nat} {ending : Ending}
    (hbelow : start.Wakes (event :: events) 0 → (system.run event start).value.2.value < target)
    (h : Waited target (system.run event start).value.2 events
      (waits + if start.Wakes (event :: events) 0 then 1 else 0) ending) :
    Waited target start (event :: events) waits ending := by
  have hlater {bound : Nat}
      (hall : ∀ j < bound, (system.run event start).value.2.Wakes events j →
        ((system.run event start).value.2.after events (j + 1)).value < target) :
      ∀ j < bound + 1, start.Wakes (event :: events) j →
        (start.after (event :: events) (j + 1)).value < target := by
    intro j hj hwakes
    cases j with
    | zero => exact hbelow hwakes
    | succ j => exact hall j (Nat.lt_of_succ_lt_succ hj) hwakes
  cases h with
  | returned i hlt hwakes hreached hleast =>
    have hcount : waits + Nat.count (start.Wakes (event :: events)) (i + 2) =
        waits + (if start.Wakes (event :: events) 0 then 1 else 0) +
          Nat.count ((system.run event start).value.2.Wakes events) (i + 1) := by
      rw [count_wakes_cons, Nat.add_assoc]
    rw [← hcount]
    exact .returned (i + 1) (Nat.succ_lt_succ hlt) hwakes hreached (hlater hleast)
  | abandoned hnone => exact .abandoned (hlater hnone)

/-! ## The lock and the generation -/

/-- Whoever takes a free lock and gives it back leaves the monitor as it was. -/
theorem unlock_lock {monitor : Monitor} (h : monitor.locked = false) :
    monitor.lock.unlock = monitor := by
  obtain ⟨value, locked, condition⟩ := monitor
  cases h
  rfl

/-- A look at the integer gives the lock back. -/
theorem guard_snd (value : Int) (waits : Nat) (monitor : Monitor) :
    (guard value waits monitor).2 = monitor.unlock := by
  unfold guard
  split <;> rfl

/-- A call that is entered leaves a free monitor as it was. -/
theorem enter_snd (call : Call) {monitor : Monitor} (h : monitor.locked = false) :
    (enter call monitor).2 = monitor := by
  cases call with
  | once => exact unlock_lock h
  | atLeast value => rw [enter, guard_snd, unlock_lock h]

/-- A call that goes on leaves a free monitor as it was. -/
theorem resume_snd (waiting : Waiting) {monitor : Monitor} (h : monitor.locked = false) :
    (resume waiting monitor).2 = monitor := by
  cases waiting with
  | once => exact unlock_lock h
  | atLeast value waits => rw [resume, guard_snd, unlock_lock h]

/-- A move is a broadcast. -/
def isBroadcast : Moment Monitor Action Call Waiting Answer → Bool
  | ⟨_, .act .broadcast _, _⟩ => true
  | _ => false

/-- A move from a free monitor leaves the lock free, and moves the generation on if it is a
broadcast. -/
theorem free_step {sleeping : List (Sleeper Waiting)}
    {moment : Moment Monitor Action Call Waiting Answer} (hlegal : system.Legal sleeping moment)
    (h : moment.before.locked = false) :
    moment.after.locked = false ∧ moment.after.condition.generation =
      moment.before.condition.generation + if isBroadcast moment then 1 else 0 := by
  obtain ⟨before, move, after⟩ := moment
  cases move with
  | act action answer =>
    have hafter : (act action before).2 = after := congrArg Prod.snd hlegal
    subst hafter
    cases action <;> exact ⟨h, by simp [act, isBroadcast, Condition.broadcast]⟩
  | enter call attempt =>
    have hafter : (enter call before).2 = after := congrArg Prod.snd hlegal
    have hsame : before = after := (enter_snd call h).symm.trans hafter
    subst hsame
    exact ⟨h, by simp [isBroadcast]⟩
  | resume waiting attempt =>
    have hafter : (resume waiting before).2 = after := congrArg Prod.snd hlegal.2
    have hsame : before = after := (resume_snd waiting h).symm.trans hafter
    subst hsame
    exact ⟨h, by simp [isBroadcast]⟩
  | abandon waiting =>
    have hafter : after = before := hlegal.2
    subst hafter
    exact ⟨h, by simp [isBroadcast]⟩

/-- Between the moves of a run that starts with a free monitor the lock is free, and the generation
has moved on by the broadcasts, wrapping. -/
theorem free_path {start last : Monitor} {sleeping waiting : List (Sleeper Waiting)}
    {past : List (Moment Monitor Action Call Waiting Answer)}
    (hpath : System.Path system start sleeping past last waiting) (h : start.locked = false) :
    last.locked = false ∧ last.condition.generation =
      start.condition.generation + UInt64.ofNat (past.countP isBroadcast) := by
  refine hpath.history (fun past now => now.locked = false ∧ now.condition.generation =
    start.condition.generation + UInt64.ofNat (past.countP isBroadcast)) ⟨h, ?_⟩ ?_
  · exact (UInt64.add_zero _).symm
  · intro earlier moment _ asleep hlegal hbefore
    obtain ⟨hfree, hgeneration⟩ := free_step hlegal hbefore.1
    refine ⟨hfree, ?_⟩
    rw [hgeneration, hbefore.2, List.countP_append, UInt64.ofNat_add, UInt64.add_assoc,
      List.countP_singleton]
    split <;> rfl

/-- An event leaves the lock free. -/
theorem free_run {monitor : Monitor} (event : Step Action Call) (h : monitor.locked = false) :
    (system.run event monitor).value.2.locked = false := by
  obtain ⟨heard, hpath⟩ := System.path_journal system event monitor []
  exact (free_path hpath h).1

/-! ## The loop and the run -/

/-- A free lock can be taken. -/
theorem take?_of_free {monitor : Monitor} (h : monitor.locked = false) :
    monitor.take? = some monitor.lock := by
  rw [take?, h]
  rfl

/-- A lock that was taken can be given back. -/
theorem giveBack?_lock {monitor : Monitor} (h : monitor.locked = false) :
    monitor.lock.giveBack? = some monitor := by
  rw [giveBack?, if_pos (show monitor.lock.locked = true from rfl), unlock_lock h]

/-- A call that is woken goes on at once. -/
theorem yieldWhile_of_ne {seen : UInt64} {monitor : Monitor} (events : List (Step Action Call))
    (h : monitor.condition.generation ≠ seen) :
    yieldWhile seen events monitor = (monitor, some events) := by
  cases events <;> simp [yieldWhile, h]

/-- What a guarded wait does after a yield: it goes on with the lock, or is abandoned. -/
def goOn (target : Int) (waits : Nat) :
    Monitor × Option (List (Step Action Call)) → Option Ending
  | (woken, some left) => woken.take?.bind fun again => guarded target waits again left
  | (last, none) => some (.abandoned last)

/-- Whoever waits under a lock that was free gives the lock back and yields. -/
theorem wait_lock {monitor : Monitor} (events : List (Step Action Call))
    (hfree : monitor.locked = false) :
    monitor.lock.wait events =
      match yieldWhile monitor.condition.generation events monitor with
      | (woken, some left) => woken.take?.map fun again => (again, some left)
      | (last, none) => some (last, none) := by
  rw [wait, giveBack?_lock hfree]
  rfl

/-- One turn of the loop. -/
theorem guarded_eq (target : Int) (waits : Nat) (held : Monitor)
    (events : List (Step Action Call)) :
    guarded target waits held events =
      if held.value < target then
        match held.wait events with
        | none => none
        | some (last, none) => some (.abandoned last)
        | some (again, some left) => guarded target (waits + 1) again left
      else
        some (.returned held waits events) := by
  rw [guarded]
  split
  · split
    all_goals
      next hwait => rw [hwait]
  · rfl

/-- A guarded wait that finds the integer too small gives the lock back and yields. -/
theorem guarded_of_lt {target : Int} {monitor : Monitor} (waits : Nat)
    (events : List (Step Action Call)) (hfree : monitor.locked = false)
    (h : monitor.value < target) :
    guarded target waits monitor.lock events =
      goOn target (waits + 1) (yieldWhile monitor.condition.generation events monitor) := by
  rw [guarded_eq, if_pos (show monitor.lock.value < target from h), wait_lock events hfree]
  rcases yieldWhile monitor.condition.generation events monitor with ⟨woken, _ | left⟩
  · rfl
  · cases htaken : woken.take? with
    | none => simp only [goOn, htaken, Option.map_none, Option.bind_none]
    | some again => simp only [goOn, htaken, Option.map_some, Option.bind_some]

/-- A guarded wait that finds the integer large enough returns. -/
theorem guarded_of_ge {target : Int} {monitor : Monitor} (waits : Nat)
    (events : List (Step Action Call)) (h : target ≤ monitor.value) :
    guarded target waits monitor.lock events =
      some (.returned monitor.lock waits events) := by
  rw [guarded_eq, if_neg (show ¬ monitor.lock.value < target from Int.not_lt.2 h)]

/-- A woken call of the system looks at the integer as the loop does. -/
theorem resume_atLeast (target : Int) (waits : Nat) {monitor : Monitor}
    (h : monitor.locked = false) :
    (system.resume (.atLeast target waits) monitor).value =
      (if monitor.value < target then .suspended (.atLeast target (waits + 1))
        else .finished (.reached monitor.value waits), monitor) := by
  show guard target waits monitor.lock = _
  rw [guard, unlock_lock h]
  exact (apply_ite (·, monitor) _ _ _).symm

/-- A call that waits ends as the events decide, whether it runs as a loop that takes the lock and
gives it back or as a call of the system. -/
theorem waited_yield (target : Int) (events : List (Step Action Call)) :
    ∀ (waits : Nat) (start : Monitor), start.locked = false →
      ∃ ending reports,
        goOn target (waits + 1) (yieldWhile start.condition.generation events start) =
          some ending ∧
        Waited target start events waits ending ∧
        (system.yield (.atLeast target (waits + 1)) start.condition.generation events
          start).value = (ending.answer?, reports, ending.monitor) ∧
        reports.length + ending.left.length = events.length := by
  induction events with
  | nil =>
    intro waits start _
    refine ⟨.abandoned start, [], ?_, .abandoned (by simp), rfl, rfl⟩
    rw [yieldWhile, if_pos rfl]
    rfl
  | cons event events ih =>
    intro waits start hfree
    rcases hrun : (system.run event start).value with ⟨report, next⟩
    have hnext : next.locked = false := by
      have hfree := free_run event hfree
      rw [hrun] at hfree
      exact hfree
    have hstarts : yieldWhile start.condition.generation (event :: events) start =
        yieldWhile start.condition.generation events next := by
      rw [yieldWhile, if_pos rfl, hrun]
    have hcons {ending : Ending}
        (hbelow : start.Wakes (event :: events) 0 → next.value < target)
        (h : Waited target next events
          (waits + if start.Wakes (event :: events) 0 then 1 else 0) ending) :
        Waited target start (event :: events) waits ending := by
      apply Waited.cons
      · rw [hrun]
        exact hbelow
      · rw [hrun]
        exact h
    rw [hstarts]
    by_cases hsame : next.condition.generation = start.condition.generation
    · -- the event does not wake the call
      have hquiet : ¬ start.Wakes (event :: events) 0 := by
        rw [wakes_zero, hrun]
        exact fun hwakes => hwakes hsame
      obtain ⟨ending, reports, hloop, hwaited, hyield, hcount⟩ := ih waits next hnext
      rw [hsame] at hloop hyield
      refine ⟨ending, report :: reports, hloop, hcons (fun hwakes => absurd hwakes hquiet) ?_, ?_,
        ?_⟩
      · rw [if_neg hquiet]
        exact hwaited
      · rw [System.value_yield_quiet hrun hsame, hyield]
      · simp only [List.length_cons]
        omega
    · -- the event wakes the call, which takes the lock and looks
      have hwakes : start.Wakes (event :: events) 0 := by
        rw [wakes_zero, hrun]
        exact hsame
      have hlook : goOn target (waits + 1)
          (yieldWhile start.condition.generation events next) =
            guarded target (waits + 1) next.lock events := by
        rw [yieldWhile_of_ne events hsame, goOn, take?_of_free hnext]
        rfl
      rw [hlook]
      by_cases hbelow : next.value < target
      · obtain ⟨ending, reports, hloop, hwaited, hyield, hcount⟩ := ih (waits + 1) next hnext
        rw [guarded_of_lt _ _ hnext hbelow]
        refine ⟨ending, report :: reports, hloop, hcons (fun _ => hbelow) ?_, ?_, ?_⟩
        · rw [if_pos hwakes]
          exact hwaited
        · have hresume := resume_atLeast target (waits + 1) hnext
          rw [if_pos hbelow] at hresume
          have hagain : (system.yield (.atLeast target (waits + 1 + 1)) (system.generation next)
              events next).value = _ := hyield
          rw [System.value_yield_suspended hrun hsame hresume, hagain]
        · simp only [List.length_cons]
          omega
      · have hreached : target ≤ next.value := Int.not_lt.1 hbelow
        have hresume := resume_atLeast target (waits + 1) hnext
        rw [if_neg hbelow] at hresume
        have hcount : waits + Nat.count (start.Wakes (event :: events)) 1 = waits + 1 := by
          rw [count_wakes_cons, if_pos hwakes, Nat.count_zero]
        refine ⟨.returned next.lock (waits + 1) events, [report], guarded_of_ge _ _ hreached, ?_,
          ?_, ?_⟩
        · have hafter : start.after (event :: events) 1 = next := by
            rw [after_cons, hrun]
            rfl
          rw [← hcount, ← hafter]
          refine .returned 0 (Nat.succ_pos _) hwakes ?_ (by simp)
          rw [hafter]
          exact hreached
        · rw [System.value_yield_finished hrun hsame hresume]
          exact congrArg (some _, [report], ·) (unlock_lock hnext).symm
        · exact Nat.add_comm 1 events.length

/-- Whoever returns from waiting holds the lock, and the integer is large enough. -/
theorem Waited.holds {target : Int} {start held : Monitor} {events left : List (Step Action Call)}
    {waits count : Nat} (h : Waited target start events waits (.returned held count left)) :
    held.locked = true ∧ target ≤ held.value := by
  cases h with
  | returned i _ _ hreached _ => exact ⟨rfl, hreached⟩

/-- A wait is abandoned if none of its events wakes it and leaves the integer large enough. -/
theorem Waited.answer?_eq_none_iff {target : Int} {start : Monitor}
    {events : List (Step Action Call)} {waits : Nat} {ending : Ending}
    (h : Waited target start events waits ending) :
    ending.answer? = none ↔ ∀ j < events.length, start.Wakes events j →
      (start.after events (j + 1)).value < target := by
  cases h with
  | returned i hlt hwakes hreached _ =>
    constructor
    · intro hnone
      cases hnone
    · intro hall
      exact absurd (hall i hlt hwakes) (Int.not_lt.2 hreached)
  | abandoned hnone => exact ⟨fun _ => hnone, fun _ => rfl⟩

/-- A guarded wait that is started in any run of the monitor. If the integer is large enough, it
returns at once. Otherwise it returns, holding the lock, after the first event that wakes it and
leaves the integer large enough, having waited once for each event that woke it, and is abandoned
if there is no such event. The system answers as the loop does. At every moment of the run, before
and after each event however deep, the lock is free, and the generation is the number of broadcasts
so far. -/
theorem guarded_wait (past events : List (Step Action Call)) (target : Int) :
    let start := (system.runAll past Monitor.start).2
    let call := Step.call (Call.atLeast target) events
    ∃ ending reports,
      (start.take?.bind fun held => guarded target 0 held events) = some ending ∧
      (target ≤ start.value → ending = .returned start.lock 0 events) ∧
      (start.value < target → Waited target start events 0 ending) ∧
      (∀ held waits left, ending = .returned held waits left →
        held.locked = true ∧ target ≤ held.value) ∧
      (ending.answer? = none ↔ start.value < target ∧ ∀ j < events.length,
        start.Wakes events j → (start.after events (j + 1)).value < target) ∧
      (system.run call start).value = (.mk ending.answer? () reports, ending.monitor) ∧
      reports.length + ending.left.length = events.length ∧
      ∀ moments, moments <+: system.journalAll (past ++ [call]) Monitor.start →
        let now := System.stateAfter Monitor.start moments
        now.locked = false ∧
        now.condition.generation.toNat = moments.countP isBroadcast % 2 ^ 64 := by
  intro start call
  have hfree : start.locked = false := (free_path (System.path_journalAll system past _) rfl).1
  have hmoments : ∀ moments, moments <+: system.journalAll (past ++ [call]) Monitor.start →
      let now := System.stateAfter Monitor.start moments
      now.locked = false ∧
      now.condition.generation.toNat = moments.countP isBroadcast % 2 ^ 64 := by
    intro moments hbegins now
    obtain ⟨hlocked, hgeneration⟩ := free_path (System.journalAll_path hbegins) rfl
    refine ⟨hlocked, ?_⟩
    rw [hgeneration]
    simp [Monitor.start, Condition.start]
  rw [take?_of_free hfree, Option.bind_some]
  have hentered : (system.enter (.atLeast target) start).value =
      (if start.value < target then .suspended (.atLeast target 1)
        else .finished (.reached start.value 0), start) := resume_atLeast target 0 hfree
  by_cases hbelow : start.value < target
  · obtain ⟨ending, reports, hloop, hwaited, hyield, hcount⟩ :=
      waited_yield target events 0 start hfree
    rw [if_pos hbelow] at hentered
    have hrun : (system.run call start).value =
        (.mk ending.answer? () reports, ending.monitor) := by
      have hyield : (system.yield (.atLeast target 1) (system.generation start) events
          start).value = _ := hyield
      rw [System.value_run_suspended hentered, hyield]
    rw [guarded_of_lt 0 events hfree hbelow]
    refine ⟨ending, reports, hloop, fun hreached => absurd hbelow (Int.not_lt.2 hreached),
      fun _ => hwaited, ?_, ?_, hrun, hcount, hmoments⟩
    · rintro held waits left rfl
      exact hwaited.holds
    · rw [hwaited.answer?_eq_none_iff]
      exact ⟨fun hall => ⟨hbelow, hall⟩, fun hall => hall.2⟩
  · have hreached : target ≤ start.value := Int.not_lt.1 hbelow
    rw [if_neg hbelow] at hentered
    have hrun : (system.run call start).value =
        (.mk (some (.reached start.value 0)) () [], start.lock.unlock) := by
      rw [System.value_run_finished hentered, unlock_lock hfree]
    refine ⟨.returned start.lock 0 events, [], guarded_of_ge 0 events hreached, fun _ => rfl,
      fun hlt => absurd hlt hbelow, ?_, ?_, hrun, Nat.zero_add _, hmoments⟩
    · rintro held waits left ⟨⟩
      exact ⟨rfl, hreached⟩
    · constructor
      · intro hnone
        cases hnone
      · exact fun hall => absurd hall.1 hbelow

end NetStack.Monitor
