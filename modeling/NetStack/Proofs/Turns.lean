import NetStack.Proofs.Calls

/-!
# The turns of a call that waits for a datagram

A call that waits for a datagram goes around in loops: one over its port's queue, one over the
frames that carry no datagram, one over the slots of the ring, and one over the events that run
while it sleeps. Here they are laid out as one machine that makes a turn at a time. A `Place` says
where the call is, in which stack, and which events are left; `Makes` has one rule for each turn,
and a `Course` is the turns of a call up to its end.

A call makes exactly one course from each place (`exists_course`, `Course.unique`). It ends since
every turn makes a measure smaller: the events that are left come first, then the frames in the
ring, then the way to the next look at a slot (`Makes.measure_lt`). What a course looks like is read
off the rules: a call that falls asleep has an event run or is abandoned (`Course.behind_slept`), a
call that is told to stop is served from its queue (`Course.behind_stopped`), and between two sleeps
a call takes no more frames than the ring held when it woke up (`Course.taken_le`).
-/

namespace NetStack.Bench

/-! ## The machine -/

/-- What a call waits for. -/
inductive Goal where
  /-- The next datagram of at most `capacity` bytes, whatever its port. -/
  | any (capacity : Nat)
  /-- The next datagram for a port. -/
  | port (port : UInt16)

namespace Goal

/-- The longest datagram that the call takes. -/
def capacity : Goal → Nat
  | any capacity => capacity
  | port _ => Host.frameCapacity

/-- The datagram is one that the call waits for. -/
def Wants : Goal → Datagram → Prop
  | any _, _ => True
  | port own, datagram => datagram.dport = own

/-- Whether something is parked for the call. This is what it is asked before it looks at a slot. -/
def pending : Goal → Backlog → Bool
  | any _, _ => false
  | port own, backlog => !(backlog.queue own).isEmpty

/-- Takes what is parked for the call. -/
def take? : Goal → Backlog → Option (Datagram × Backlog)
  | any _, _ => none
  | port own, backlog => backlog.take? own

/-- What is pending is what can be taken. -/
theorem pending_eq_isSome (goal : Goal) (backlog : Backlog) :
    goal.pending backlog = (goal.take? backlog).isSome := by
  cases goal with
  | any capacity => rfl
  | port own =>
    show (!(backlog.queue own).isEmpty) = (backlog.take? own).isSome
    cases htake : backlog.take? own with
    | none =>
      rw [(Backlog.take?_eq_none_iff _ _).1 htake]
      rfl
    | some taken =>
      rw [Backlog.queue_take? htake]
      rfl

end Goal

/-- Where in its loops a call is. -/
inductive Point where
  /-- Before it looks at its queue. -/
  | queue
  /-- Before it is asked whether to stop. -/
  | ask
  /-- Before it looks at the next slot of the ring. -/
  | look
  /-- Asleep, having noted a generation. -/
  | asleep (seen : UInt64)

/-- Whether a call is awake. -/
def Point.awake : Point → Bool
  | asleep _ => false
  | _ => true

/-- What a call does in one turn. -/
inductive Turn where
  /-- It finds its queue empty. -/
  | missed
  /-- It takes a datagram from its queue, and has its answer. -/
  | served
  /-- It is not told to stop. -/
  | asked
  /-- It is told to stop, and goes back to its queue. -/
  | stopped
  /-- It finds the slot with the card, and falls asleep. -/
  | slept
  /-- It passes over an overlong frame. -/
  | dropped
  /-- It takes a frame that carries no datagram. -/
  | absorbed
  /-- It takes a frame with the datagram that it waits for, and has its answer. -/
  | received
  /-- It takes a frame with a datagram for another port, and hands that over. -/
  | parked
  /-- An event runs and does not wake it. -/
  | quiet
  /-- An event runs and wakes it. -/
  | woken
  /-- It is asleep with no event left, and is given up. -/
  | abandoned
  deriving DecidableEq

namespace Turn

/-- Whether a frame leaves the ring in the turn. -/
def takes : Turn → Bool
  | dropped => true
  | absorbed => true
  | received => true
  | parked => true
  | _ => false

/-- Whether an event runs in the turn. -/
def yields : Turn → Bool
  | quiet => true
  | woken => true
  | _ => false

end Turn

variable {β : Type}

/-- Where a call is, in which stack, and with which events left. -/
structure Place (β : Type) where
  point : Point
  stack : Stack β
  events : List (Step Action Call)

/-- How many turns a call can make at most up to its next sleep, or its end. -/
def Place.rank (goal : Goal) (place : Place β) : Nat :=
  match place.point with
  | .queue => if goal.pending place.stack.backlog then 0 else 3 * place.stack.ready + 3
  | .ask => if goal.pending place.stack.backlog then 1 else 3 * place.stack.ready + 2
  | .look => 3 * place.stack.ready + 1
  | .asleep _ => 0

/-- How many turns a call can make at most: the way to the next sleep, and as much as a full ring
allows for each event that is left. -/
def Place.measure (goal : Goal) (place : Place β) : Nat :=
  place.events.length * (3 * Host.rxRingSize + 4) + place.rank goal + 1

/-- A ring holds no more frames than it has slots. -/
theorem ready_le (stack : Stack β) : stack.ready ≤ Host.rxRingSize :=
  Vector.countP_le_size

/-- The more frames in the ring, the more turns a call may have to make. -/
theorem rank_le (goal : Goal) (place : Place β) : place.rank goal ≤ 3 * place.stack.ready + 3 := by
  obtain ⟨point, stack, events⟩ := place
  cases point with
  | queue =>
    simp only [Place.rank]
    split <;> omega
  | ask =>
    simp only [Place.rank]
    split <;> omega
  | look => exact Nat.add_le_add_left (by decide) _
  | asleep seen => exact Nat.zero_le _

/-- How a call ends. -/
inductive Ending (β : Type) where
  /-- It has its datagram, and leaves the events `left` alone. -/
  | answered (datagram : Datagram) (stack : Stack β) (left : List (Step Action Call))
  /-- It is given up. -/
  | abandoned (stack : Stack β)

namespace Ending

/-- The datagram, if the call has one. -/
def datagram? : Ending β → Option Datagram
  | answered datagram _ _ => some datagram
  | abandoned _ => none

/-- The stack at the end. -/
def stack : Ending β → Stack β
  | answered _ stack _ => stack
  | abandoned stack => stack

/-- The events that did not run. -/
def left : Ending β → List (Step Action Call)
  | answered _ _ left => left
  | abandoned _ => []

end Ending

/-- Where a turn leads. -/
inductive Next (β : Type) where
  | going (place : Place β)
  | ended (ending : Ending β)

/-- The stack that a turn leads to. -/
def Next.stack : Next β → Stack β
  | going place => place.stack
  | ended ending => ending.stack

/-- The events that a turn leaves. -/
def Next.events : Next β → List (Step Action Call)
  | going place => place.events
  | ended ending => ending.left

variable [Device β]

/-- What a call with a goal does at a place in one turn, and where that leads. -/
inductive Makes (goal : Goal) : Place β → Turn → Next β → Prop
  | missed {stack : Stack β} {events : List (Step Action Call)}
      (htake : goal.take? stack.backlog = none) :
      Makes goal ⟨.queue, stack, events⟩ .missed (.going ⟨.ask, stack, events⟩)
  | served {stack : Stack β} {events : List (Step Action Call)} {datagram : Datagram}
      {backlog : Backlog} (htake : goal.take? stack.backlog = some (datagram, backlog)) :
      Makes goal ⟨.queue, stack, events⟩ .served
        (.ended (.answered datagram { stack with backlog } events))
  | asked {stack : Stack β} {events : List (Step Action Call)}
      (hpending : goal.pending stack.backlog = false) :
      Makes goal ⟨.ask, stack, events⟩ .asked (.going ⟨.look, stack, events⟩)
  | stopped {stack : Stack β} {events : List (Step Action Call)}
      (hpending : goal.pending stack.backlog = true) :
      Makes goal ⟨.ask, stack, events⟩ .stopped (.going ⟨.queue, stack, events⟩)
  | slept {stack : Stack β} {events : List (Step Action Call)} {adapter : Adapter β}
      (hpoll : stack.adapter.poll.value = (.idle, adapter)) :
      Makes goal ⟨.look, stack, events⟩ .slept
        (.going ⟨.asleep stack.adapter.arrival.generation, stack, events⟩)
  | dropped {stack : Stack β} {events : List (Step Action Call)} {adapter : Adapter β}
      (hpoll : stack.adapter.poll.value = (.dropped, adapter)) :
      Makes goal ⟨.look, stack, events⟩ .dropped
        (.going ⟨.ask, stack.withAdapter adapter, events⟩)
  | absorbed {stack : Stack β} {events : List (Step Action Call)} {adapter : Adapter β}
      {frame : Bytes} {transport : Transport β}
      (hpoll : stack.adapter.poll.value = (.frame frame, adapter))
      (hdispatch : (Transport.dispatch { stack.transport with adapter } frame goal.capacity).value =
        (none, transport)) :
      Makes goal ⟨.look, stack, events⟩ .absorbed (.going ⟨.ask, { stack with transport }, events⟩)
  | received {stack : Stack β} {events : List (Step Action Call)} {adapter : Adapter β}
      {frame : Bytes} {transport : Transport β} {datagram : Datagram}
      (hpoll : stack.adapter.poll.value = (.frame frame, adapter))
      (hdispatch : (Transport.dispatch { stack.transport with adapter } frame goal.capacity).value =
        (some datagram, transport)) (hwants : goal.Wants datagram) :
      Makes goal ⟨.look, stack, events⟩ .received
        (.ended (.answered datagram { stack with transport } events))
  | parked {stack : Stack β} {events : List (Step Action Call)} {adapter : Adapter β}
      {frame : Bytes} {transport : Transport β} {datagram : Datagram}
      (hpoll : stack.adapter.poll.value = (.frame frame, adapter))
      (hdispatch : (Transport.dispatch { stack.transport with adapter } frame goal.capacity).value =
        (some datagram, transport)) (hother : ¬ goal.Wants datagram) :
      Makes goal ⟨.look, stack, events⟩ .parked
        (.going ⟨.queue, (Stack.park { stack with transport } datagram).value, events⟩)
  | quiet {stack next : Stack β} {event : Step Action Call} {events : List (Step Action Call)}
      {seen : UInt64} {report : Report Answer Status}
      (hrun : ((stackSystem β).run event stack).value = (report, next))
      (hsame : next.adapter.arrival.generation = seen) :
      Makes goal ⟨.asleep seen, stack, event :: events⟩ .quiet
        (.going ⟨.asleep seen, next, events⟩)
  | woken {stack next : Stack β} {event : Step Action Call} {events : List (Step Action Call)}
      {seen : UInt64} {report : Report Answer Status}
      (hrun : ((stackSystem β).run event stack).value = (report, next))
      (hwoken : next.adapter.arrival.generation ≠ seen) :
      Makes goal ⟨.asleep seen, stack, event :: events⟩ .woken (.going ⟨.ask, next, events⟩)
  | abandoned {stack : Stack β} {seen : UInt64} :
      Makes goal ⟨.asleep seen, stack, []⟩ .abandoned (.ended (.abandoned stack))

/-- The turns of a call from a place to its end. -/
inductive Course (goal : Goal) : Place β → List Turn → Ending β → Prop
  | ended {place : Place β} {turn : Turn} {ending : Ending β}
      (hmakes : Makes goal place turn (.ended ending)) : Course goal place [turn] ending
  | going {place next : Place β} {turn : Turn} {turns : List Turn} {ending : Ending β}
      (hmakes : Makes goal place turn (.going next)) (hrest : Course goal next turns ending) :
      Course goal place (turn :: turns) ending

variable {goal : Goal} {place : Place β} {turns : List Turn} {ending : Ending β}

/-- At each place a call can make one turn only. -/
theorem Makes.unique {turn turn' : Turn} {next next' : Next β} (h : Makes goal place turn next)
    (h' : Makes goal place turn' next') : turn = turn' ∧ next = next' := by
  cases h <;> cases h' <;> simp_all

/-- At each place a call can make a turn. -/
theorem exists_makes (goal : Goal) (place : Place β) : ∃ turn next, Makes goal place turn next := by
  obtain ⟨point, stack, events⟩ := place
  cases point with
  | queue =>
    cases htake : goal.take? stack.backlog with
    | none => exact ⟨_, _, .missed htake⟩
    | some taken => exact ⟨_, _, .served htake⟩
  | ask =>
    cases hpending : goal.pending stack.backlog with
    | false => exact ⟨_, _, .asked hpending⟩
    | true => exact ⟨_, _, .stopped hpending⟩
  | look =>
    rcases hpoll : stack.adapter.poll.value with ⟨found, adapter⟩
    cases found with
    | idle => exact ⟨_, _, .slept hpoll⟩
    | dropped => exact ⟨_, _, .dropped hpoll⟩
    | frame frame =>
      rcases hdispatch : (Transport.dispatch { stack.transport with adapter } frame
        goal.capacity).value with ⟨carried, transport⟩
      cases carried with
      | none => exact ⟨_, _, .absorbed hpoll hdispatch⟩
      | some datagram =>
        by_cases hwants : goal.Wants datagram
        · exact ⟨_, _, .received hpoll hdispatch hwants⟩
        · exact ⟨_, _, .parked hpoll hdispatch hwants⟩
  | asleep seen =>
    cases events with
    | nil => exact ⟨_, _, .abandoned⟩
    | cons event events =>
      rcases hrun : ((stackSystem β).run event stack).value with ⟨report, next⟩
      by_cases hsame : next.adapter.arrival.generation = seen
      · exact ⟨_, _, .quiet hrun hsame⟩
      · exact ⟨_, _, .woken hrun hsame⟩

/-- From each place a call can go one way only. -/
theorem Course.unique {turns' : List Turn} {ending' : Ending β} (h : Course goal place turns ending)
    (h' : Course goal place turns' ending') : turns = turns' ∧ ending = ending' := by
  induction h generalizing turns' with
  | ended hmakes =>
    cases h' with
    | ended hmakes' =>
      obtain ⟨rfl, hending⟩ := hmakes.unique hmakes'
      cases hending
      exact ⟨rfl, rfl⟩
    | going hmakes' _ => cases (hmakes.unique hmakes').2
  | going hmakes _ ih =>
    cases h' with
    | ended hmakes' => cases (hmakes.unique hmakes').2
    | going hmakes' hrest' =>
      obtain ⟨rfl, hnext⟩ := hmakes.unique hmakes'
      cases hnext
      obtain ⟨rfl, rfl⟩ := ih hrest'
      exact ⟨rfl, rfl⟩

/-! ## Every course ends -/

/-- Dealing with a frame that was taken leaves the ring emptier than it was before. -/
theorem ready_lt_of_dispatch {stack : Stack β} {adapter : Adapter β} {transport : Transport β}
    {frame : Bytes} {capacity : Nat} {carried : Option Datagram}
    (hpoll : stack.adapter.poll.value = (.frame frame, adapter))
    (hdispatch : (Transport.dispatch { stack.transport with adapter } frame capacity).value =
      (carried, transport)) : transport.ready < stack.ready := by
  have hsame := Transport.ready_dispatch { stack.transport with adapter } frame capacity
  rw [hdispatch] at hsame
  calc transport.ready = adapter.ready := hsame
    _ < stack.adapter.ready := Adapter.ready_lt_of_poll hpoll (by simp)

/-- A turn in which a frame leaves the ring leaves the ring emptier. -/
theorem Makes.ready_lt {turn : Turn} {next : Next β} (h : Makes goal place turn next)
    (htakes : turn.takes = true) : next.stack.ready < place.stack.ready := by
  cases h with
  | dropped hpoll => exact Adapter.ready_lt_of_poll hpoll (by simp)
  | absorbed hpoll hdispatch => exact ready_lt_of_dispatch hpoll hdispatch
  | received hpoll hdispatch _ => exact ready_lt_of_dispatch hpoll hdispatch
  | parked hpoll hdispatch _ =>
    show (Stack.park _ _).value.ready < _
    rw [Stack.ready_park]
    exact ready_lt_of_dispatch hpoll hdispatch
  | _ => cases htakes

/-- Every other turn but one in which an event runs leaves the ring as it is. -/
theorem Makes.ready_eq {turn : Turn} {next : Next β} (h : Makes goal place turn next)
    (htakes : turn.takes = false) (hyields : turn.yields = false) :
    next.stack.ready = place.stack.ready := by
  cases h with
  | missed => rfl
  | served => rfl
  | asked => rfl
  | stopped => rfl
  | slept => rfl
  | abandoned => rfl
  | quiet => cases hyields
  | woken => cases hyields
  | _ => cases htakes

/-- Every turn makes the measure smaller. -/
theorem Makes.measure_lt {turn : Turn} {next : Place β}
    (h : Makes goal place turn (.going next)) : next.measure goal < place.measure goal := by
  have hready := h.ready_lt
  have hrank := rank_le goal next
  have hfull := ready_le next.stack
  cases h with
  | missed htake => simp [Place.measure, Place.rank, goal.pending_eq_isSome, htake]
  | asked hpending => simp [Place.measure, Place.rank, hpending]
  | stopped hpending => simp [Place.measure, Place.rank, hpending]
  | slept => simp [Place.measure, Place.rank]
  | quiet => simp [Place.measure, Place.rank, Host.rxRingSize]
  | woken =>
    -- an event has run, and allows for the turns up to the next sleep
    simp only [Place.measure, Place.rank, List.length_cons, Host.rxRingSize] at hrank hfull ⊢
    omega
  | _ =>
    -- a frame has left the ring
    have hlt := hready rfl
    simp only [Place.measure, Place.rank, Next.stack] at hrank hlt ⊢
    omega

/-- A call makes no more turns than the measure allows. -/
theorem Course.length_le (h : Course goal place turns ending) :
    turns.length ≤ place.measure goal := by
  induction h with
  | ended _ => exact Nat.le_add_left _ _
  | going hmakes _ ih =>
    have hlt := hmakes.measure_lt
    rw [List.length_cons]
    omega

/-- From each place a call comes to its end. -/
theorem exists_course (goal : Goal) (place : Place β) :
    ∃ turns ending, Course goal place turns ending := by
  obtain ⟨turn, next, hmakes⟩ := exists_makes goal place
  cases next with
  | ended ending => exact ⟨_, _, .ended hmakes⟩
  | going next =>
    obtain ⟨turns, ending, hrest⟩ := exists_course goal next
    exact ⟨_, _, .going hmakes hrest⟩
termination_by place.measure goal
decreasing_by exact hmakes.measure_lt

/-! ## What a course looks like -/

/-- The first turn of a course, and what comes behind it. -/
theorem Course.exists_makes {turn : Turn} {after : List Turn}
    (h : Course goal place (turn :: after) ending) :
    (after = [] ∧ Makes goal place turn (.ended ending)) ∨
    ∃ next, Makes goal place turn (.going next) ∧ Course goal next after ending := by
  cases h with
  | ended hmakes => exact .inl ⟨rfl, hmakes⟩
  | going hmakes hrest => exact .inr ⟨_, hmakes, hrest⟩

/-- A call makes a course from each place that it comes by, and what every turn keeps holds there.
-/
theorem Course.exists_place (Inv : Place β → Prop)
    (hkeep : ∀ there turn next, Makes goal there turn (.going next) → Inv there → Inv next)
    {before after : List Turn} (hafter : after ≠ [])
    (h : Course goal place (before ++ after) ending) (hplace : Inv place) :
    ∃ there, Inv there ∧ Course goal there after ending := by
  induction before generalizing place with
  | nil => exact ⟨place, hplace, h⟩
  | cons first before ih =>
    rcases h.exists_makes with ⟨hnil, -⟩ | ⟨next, hmakes, hrest⟩
    · exact absurd (List.append_eq_nil_iff.1 hnil).2 hafter
    · exact ih hrest (hkeep place first next hmakes hplace)

/-- The place of a turn of a course. -/
theorem Course.exists_turn {before after : List Turn} {turn : Turn}
    (h : Course goal place (before ++ turn :: after) ending) :
    ∃ there, Course goal there (turn :: after) ending := by
  obtain ⟨there, -, hthere⟩ := h.exists_place (fun _ => True) (fun _ _ _ _ _ => trivial)
    (List.cons_ne_nil _ _) trivial
  exact ⟨there, hthere⟩

/-- A call that falls asleep has its next event run, or is given up if there is none. -/
theorem Course.behind_slept {before after : List Turn}
    (h : Course goal place (before ++ .slept :: after) ending) :
    (∃ later, after = .quiet :: later ∨ after = .woken :: later) ∨ after = [.abandoned] := by
  obtain ⟨there, hthere⟩ := h.exists_turn
  rcases hthere.exists_makes with ⟨-, hmakes⟩ | ⟨next, hmakes, hasleep⟩
  · cases hmakes
  · cases hmakes with
    | slept hpoll =>
      cases hasleep with
      | ended hmakes =>
        cases hmakes
        exact .inr rfl
      | going hmakes _ =>
        cases hmakes with
        | quiet => exact .inl ⟨_, .inl rfl⟩
        | woken => exact .inl ⟨_, .inr rfl⟩

/-- A call that is told to stop is served from its queue at once. -/
theorem Course.behind_stopped {before after : List Turn}
    (h : Course goal place (before ++ .stopped :: after) ending) : after = [.served] := by
  obtain ⟨there, hthere⟩ := h.exists_turn
  rcases hthere.exists_makes with ⟨-, hmakes⟩ | ⟨next, hmakes, hqueue⟩
  · cases hmakes
  · cases hmakes with
    | @stopped stack events hpending =>
      rw [goal.pending_eq_isSome] at hpending
      cases hqueue with
      | ended hmakes =>
        cases hmakes
        rfl
      | going hmakes _ =>
        cases hmakes with
        | missed hnone =>
          -- what is pending can be taken
          rw [hnone] at hpending
          cases hpending

/-- The events run in order, one in each turn in which one runs. -/
theorem Makes.length_events {turn : Turn} {next : Next β} (h : Makes goal place turn next) :
    place.events.length = next.events.length + if turn.yields then 1 else 0 := by
  cases h <;> rfl

/-- Each event that is gone ran in one turn of the course. -/
theorem Course.countP_yields (h : Course goal place turns ending) :
    turns.countP Turn.yields + ending.left.length = place.events.length := by
  induction h with
  | ended hmakes =>
    rw [hmakes.length_events, List.countP_singleton, Nat.add_comm]
    rfl
  | going hmakes _ ih =>
    rw [hmakes.length_events, List.countP_cons]
    simp only [Next.events]
    omega

/-- A call that is awake and does not fall asleep stays awake, and yields to no event. -/
theorem Makes.awake {turn : Turn} {next : Next β} (h : Makes goal place turn next)
    (hawake : place.point.awake = true) (hslept : turn ≠ .slept) :
    turn.yields = false ∧ ∀ there, next = .going there → there.point.awake = true := by
  cases h with
  | slept => exact absurd rfl hslept
  | quiet => cases hawake
  | woken => cases hawake
  | abandoned => cases hawake
  | _ => exact ⟨rfl, by rintro there ⟨⟩ <;> rfl⟩

/-- A call that takes a frame is awake. -/
theorem Makes.awake_of_takes {turn : Turn} {next : Next β} (h : Makes goal place turn next)
    (htakes : turn.takes = true) : place.point.awake = true := by
  cases h with
  | dropped => rfl
  | absorbed => rfl
  | received => rfl
  | parked => rfl
  | _ => cases htakes

/-- From a place where a call is awake up to its next sleep it takes no more frames than are in the
ring. -/
theorem Course.taken_le_ready {during after : List Turn}
    (h : Course goal place (during ++ after) ending) (hawake : place.point.awake = true)
    (hslept : .slept ∉ during) : during.countP Turn.takes ≤ place.stack.ready := by
  induction during generalizing place with
  | nil => exact Nat.zero_le _
  | cons turn during ih =>
    obtain ⟨hturn, hduring⟩ := List.ne_and_not_mem_of_not_mem_cons hslept
    -- what is left in the ring bounds what is taken behind the first turn
    obtain ⟨next, hmakes, hrest⟩ : ∃ next, Makes goal place turn next ∧
        during.countP Turn.takes ≤ next.stack.ready := by
      rcases h.exists_makes with ⟨hnil, hmakes⟩ | ⟨there, hmakes, hrest⟩
      · refine ⟨_, hmakes, ?_⟩
        rw [(List.append_eq_nil_iff.1 hnil).1]
        exact Nat.zero_le _
      · exact ⟨_, hmakes, ih hrest ((hmakes.awake hawake hturn.symm).2 there rfl) hduring⟩
    rw [List.countP_cons]
    cases htakes : turn.takes with
    | true =>
      have hlt := hmakes.ready_lt htakes
      simp only [if_true]
      omega
    | false =>
      have heq := hmakes.ready_eq htakes (hmakes.awake hawake hturn.symm).1
      simp only [Bool.false_eq_true, if_false]
      omega

/-- Up to its next sleep a call takes no more frames than a ring can hold. -/
theorem Course.taken_le_of_slept (Inv : Place β → Prop) (bound : Nat)
    (hkeep : ∀ there turn next, Makes goal there turn (.going next) → Inv there → Inv next)
    (hbound : ∀ there, Inv there → there.stack.ready ≤ bound) {during after : List Turn}
    (h : Course goal place (during ++ after) ending) (hplace : Inv place)
    (hslept : .slept ∉ during) : during.countP Turn.takes ≤ bound := by
  induction during generalizing place with
  | nil => exact Nat.zero_le _
  | cons turn during ih =>
    by_cases hawake : place.point.awake = true
    · exact Nat.le_trans (h.taken_le_ready hawake hslept) (hbound place hplace)
    · -- an event runs first, or none is left
      obtain ⟨-, hduring⟩ := List.ne_and_not_mem_of_not_mem_cons hslept
      have hnone {there : Next β} (hmakes : Makes goal place turn there) : ¬ turn.takes = true :=
        fun htakes => hawake (hmakes.awake_of_takes htakes)
      rcases h.exists_makes with ⟨hnil, hmakes⟩ | ⟨there, hmakes, hrest⟩
      · rw [(List.append_eq_nil_iff.1 hnil).1, List.countP_cons_of_neg (hnone hmakes)]
        exact Nat.zero_le _
      · rw [List.countP_cons_of_neg (hnone hmakes)]
        exact ih hrest (hkeep place turn there hmakes hplace) hduring

/-- Between two sleeps a call takes no more frames than a ring can hold, given what every turn
keeps. -/
theorem Course.taken_le (Inv : Place β → Prop) (bound : Nat)
    (hkeep : ∀ there turn next, Makes goal there turn (.going next) → Inv there → Inv next)
    (hbound : ∀ there, Inv there → there.stack.ready ≤ bound) {before during after : List Turn}
    (h : Course goal place (before ++ (during ++ after)) ending) (hplace : Inv place)
    (hslept : .slept ∉ during) : during.countP Turn.takes ≤ bound := by
  by_cases hend : during ++ after = []
  · rw [(List.append_eq_nil_iff.1 hend).1]
    exact Nat.zero_le _
  · obtain ⟨there, hthere, hrest⟩ := h.exists_place Inv hkeep hend hplace
    exact hrest.taken_le_of_slept Inv bound hkeep hbound hthere hslept

/-! ## Over the emulated card -/

/-- A step all of whose actions are regular, those of its events included. -/
inductive RegularStep : Step Action Call → Prop
  | act {action : Action} (h : action.Regular) : RegularStep (.act action)
  | call {call : Call} {events : List (Step Action Call)}
      (h : ∀ event ∈ events, RegularStep event) : RegularStep (.call call events)

mutual

/-- The moves of a regular step are regular. -/
theorem regular_journal : ∀ (step : Step Action Call) (stack : Stack Emulated), RegularStep step →
    ∀ event ∈ (stackSystem Emulated).journal step stack, Event.Regular event
  | .act action, stack, hregular => by
    cases hregular with
    | act h =>
      intro event hmem
      simp only [System.journal, List.mem_singleton] at hmem
      rw [hmem]
      exact h
  | .call call events, stack, hregular => by
    cases hregular with
    | call h =>
      intro event hmem
      simp only [System.journal, List.mem_cons] at hmem
      rcases hmem with rfl | hmem
      · trivial
      · split at hmem
        · cases hmem
        · exact regular_journalYield events _ _ _ h event hmem

/-- The moves of a waiting call with regular events are regular. -/
theorem regular_journalYield : ∀ (events : List (Step Action Call)) (rest : Waiting)
    (seen : UInt64) (stack : Stack Emulated), (∀ event ∈ events, RegularStep event) →
    ∀ event ∈ (stackSystem Emulated).journalYield rest seen events stack, Event.Regular event
  | [], rest, seen, stack, _ => by
    intro event hmem
    simp only [System.journalYield, List.mem_singleton] at hmem
    rw [hmem]
    trivial
  | first :: events, rest, seen, stack, hregular => by
    intro event hmem
    obtain ⟨hfirst, hevents⟩ := List.forall_mem_cons.1 hregular
    simp only [System.journalYield, List.mem_append] at hmem
    rcases hmem with hmem | hmem
    · exact regular_journal first stack hfirst event hmem
    · split at hmem
      · exact regular_journalYield events _ _ _ hevents event hmem
      · rcases List.mem_cons.1 hmem with rfl | hmem
        · trivial
        · split at hmem
          · cases hmem
          · exact regular_journalYield events _ _ _ hevents event hmem

end

/-- A regular step keeps the cursors of the ring together. -/
theorem rxLinked_run {stack : Stack Emulated} (h : stack.adapter.RxLinked)
    {step : Step Action Call} (hregular : RegularStep step) :
    ((stackSystem Emulated).run step stack).value.2.adapter.RxLinked := by
  obtain ⟨heard, hpath⟩ := System.path_journal (stackSystem Emulated) step stack []
  refine hpath.invariant (fun stack => stack.adapter.RxLinked) h ?_
  intro event hmem sleeping hlegal hlinked
  rcases effect_of_legal hlinked (regular_journal step stack hregular event hmem) hlegal with
    ⟨_, _, -, hacts⟩ | ⟨_, -, hruns⟩ | ⟨_, -, hsame⟩
  · exact hacts.linked
  · exact hruns.linked
  · rw [hsame]
    exact hlinked

/-- Taking a frame and dealing with it keeps the cursors of the ring together. -/
theorem rxLinked_dispatch {stack : Stack Emulated} {adapter : Adapter Emulated}
    {transport : Transport Emulated} {found : Poll} {frame : Bytes} {capacity : Nat}
    {carried : Option Datagram} (hlinked : stack.adapter.RxLinked)
    (hpoll : stack.adapter.poll.value = (found, adapter))
    (hdispatch : (Transport.dispatch { stack.transport with adapter } frame capacity).value =
      (carried, transport)) : transport.adapter.RxLinked := by
  have hadapter : adapter.RxLinked := by
    rcases hlinked.poll_cases hpoll with ⟨-, rfl⟩ | ⟨_, -, htakes⟩
    · exact hlinked
    · exact htakes.linked
  obtain ⟨-, hsame⟩ :=
    Transport.dispatch_spec { stack.transport with adapter } frame capacity
  rw [hdispatch] at hsame
  exact hadapter.of_sameRx hsame

/-- A place with regular events, in a stack with the cursors of the ring together. -/
structure Place.Linked (place : Place Emulated) : Prop where
  rxLinked : place.stack.adapter.RxLinked
  regular : ∀ event ∈ place.events, RegularStep event

/-- Every turn keeps the cursors of the ring together. -/
theorem Makes.linked {goal : Goal} {place next : Place Emulated} {turn : Turn}
    (h : Makes goal place turn (.going next)) (hplace : place.Linked) : next.Linked := by
  obtain ⟨hlinked, hregular⟩ := hplace
  cases h with
  | dropped hpoll =>
    rcases hlinked.poll_cases hpoll with ⟨hfound, -⟩ | ⟨_, hfound, -⟩ <;> cases hfound
  | absorbed hpoll hdispatch => exact ⟨rxLinked_dispatch hlinked hpoll hdispatch, hregular⟩
  | @parked stack _ _ _ transport datagram hpoll hdispatch _ =>
    have htaken : ({ stack with transport } : Stack Emulated).adapter.RxLinked :=
      rxLinked_dispatch hlinked hpoll hdispatch
    exact ⟨(Stack.Passes.of_park htaken datagram).linked, hregular⟩
  | quiet hrun _ =>
    obtain ⟨hfirst, hevents⟩ := List.forall_mem_cons.1 hregular
    have hnext := rxLinked_run hlinked hfirst
    rw [hrun] at hnext
    exact ⟨hnext, hevents⟩
  | woken hrun _ =>
    obtain ⟨hfirst, hevents⟩ := List.forall_mem_cons.1 hregular
    have hnext := rxLinked_run hlinked hfirst
    rw [hrun] at hnext
    exact ⟨hnext, hevents⟩
  | _ => exact ⟨hlinked, hregular⟩

end NetStack.Bench
