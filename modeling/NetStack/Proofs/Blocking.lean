import Mathlib.Logic.Relation
import NetStack.Proofs.Turns

/-!
# Every call that waits for a datagram ends

The turns of `Turns` are those of the calls as they run. A call that looks at the ring gets past the
frames that are none of its business in some turns (`leads_look`, `leads_datagram`), and ends or
falls asleep where it ends or is suspended when it runs (`follows_start`). From there its events
take it on, one by one, as they do in a run (`exists_course_yield`). `receiving_ends` says what
follows for the calls that wait for a datagram.
-/

namespace NetStack.Bench

variable {β : Type}

/-! ## The calls -/

/-- A waiting call waits for a goal, and makes its answer of the datagram in a certain way. -/
inductive Seeks : Waiting → Goal → (Datagram → Answer) → Prop
  | datagram (capacity : Nat) : Seeks (.datagram capacity .never) (.any capacity) .datagram
  | sysReceive (received : Syscall.Received) : Seeks (.sysReceive received) (.any Host.pageSize)
      fun datagram =>
        let (count, received) := received.fill datagram
        .sysReceive count received
  | port (own : UInt16) (reader : Reader) : Seeks (.port own reader) (.port own) (reader.answer ·)

/-- The calls that wait for a datagram, and are not told to stop. -/
inductive Receive where
  /-- Takes the next datagram from the transport. -/
  | transport (capacity : Nat)
  | receiveOn (port : UInt16)
  | read (fd : Nat) (buffer : Bytes)
  | sysReceive (buffer : Bytes) (src : UInt32) (sport dport : UInt16)
  | sysRead (fd : Int) (buffer : Bytes)

/-- The call itself. -/
def Receive.call : Receive → Call
  | transport capacity => .receive capacity .never
  | receiveOn port => .receiveOn port
  | read fd buffer => .read fd buffer
  | sysReceive buffer src sport dport => .sysReceive buffer src sport dport
  | sysRead fd buffer => .sysRead fd buffer

/-- A call whose arguments are found right waits for a goal. -/
theorem Receive.check_cases (receive : Receive) (stack : Stack β) :
    (∃ answer, receive.call.check stack = .finished answer) ∨
    ∃ waiting goal finish, receive.call.check stack = .suspended waiting ∧
      Seeks waiting goal finish := by
  cases receive with
  | transport capacity => exact .inr ⟨_, _, _, rfl, .datagram capacity⟩
  | receiveOn own => exact .inr ⟨_, _, _, rfl, .port own .plain⟩
  | read fd buffer =>
    simp only [call, Call.check]
    cases stack.portOf fd with
    | ok own => exact .inr ⟨_, _, _, rfl, .port own (.buffer buffer)⟩
    | error errno => exact .inl ⟨_, rfl⟩
  | sysReceive buffer src sport dport =>
    simp only [call, Call.check]
    cases Syscall.checkLength buffer with
    | ok _ => exact .inr ⟨_, _, _, rfl, .sysReceive _⟩
    | error errno => exact .inl ⟨_, rfl⟩
  | sysRead fd buffer =>
    simp only [call, Call.check]
    cases Syscall.readPort stack fd buffer with
    | ok own => exact .inr ⟨_, _, _, rfl, .port own (.sysBuffer buffer)⟩
    | error errno => exact .inl ⟨_, rfl⟩

/-! ## Up to the next sleep -/

variable [Device β] {goal : Goal}

/-- A call gets from one place to another in some turns. -/
def Leads (goal : Goal) : Place β → Place β → Prop :=
  Relation.ReflTransGen fun place next => ∃ turn, Makes goal place turn (.going next)

/-- A call that gets to a place goes on from there. -/
theorem Leads.exists_course {place next : Place β} {turns : List Turn} {ending : Ending β}
    (h : Leads goal place next) (hrest : Course goal next turns ending) :
    ∃ turns, Course goal place turns ending := by
  induction h using Relation.ReflTransGen.head_induction_on with
  | refl => exact ⟨turns, hrest⟩
  | head hmakes _ ih =>
    obtain ⟨turn, hmakes⟩ := hmakes
    obtain ⟨later, hlater⟩ := ih
    exact ⟨turn :: later, .going hmakes hlater⟩

/-- One turn. -/
theorem Makes.leads {place next : Place β} {turn : Turn} (h : Makes goal place turn (.going next)) :
    Leads goal place next :=
  Relation.ReflTransGen.single ⟨turn, h⟩

/-- A call with nothing pending looks at one slot after another until it finds a frame, or a slot
that is the card's. -/
theorem leads_look (goal : Goal) (stack : Stack β) (events : List (Step Action Call))
    {adapter last : Adapter β} {stop rest : Stop} {progress : Progress Bytes}
    (hpending : goal.pending stack.backlog = false) (hstop : stop = .never)
    (hvalue : (adapter.waitFrame stop).value = (progress, rest, last)) :
    rest = .never ∧
    ((progress = .waiting ∧
      Leads goal ⟨.ask, stack.withAdapter adapter, events⟩
        ⟨.look, stack.withAdapter last, events⟩ ∧
      ∃ same, last.poll.value = (.idle, same)) ∨
    ∃ frame there, progress = .done frame ∧
      Leads goal ⟨.ask, stack.withAdapter adapter, events⟩
        ⟨.look, stack.withAdapter there, events⟩ ∧
      there.poll.value = (.frame frame, last)) := by
  have hasked (there : Adapter β) : Leads goal ⟨.ask, stack.withAdapter there, events⟩
      ⟨.look, stack.withAdapter there, events⟩ := by
    have hmakes : Makes goal ⟨.ask, stack.withAdapter there, events⟩ .asked
        (.going ⟨.look, stack.withAdapter there, events⟩) := .asked hpending
    exact hmakes.leads
  fun_induction Adapter.waitFrame adapter stop with
  | case1 adapter stop hask =>
    subst hstop
    cases hask
  | case2 adapter stop rest' hask same hpoll =>
    subst hstop
    cases hask
    cases hvalue
    exact ⟨rfl, .inl ⟨rfl, hasked _, same, hpoll⟩⟩
  | case3 adapter stop rest' hask frame next hpoll =>
    subst hstop
    cases hask
    cases hvalue
    exact ⟨rfl, .inr ⟨frame, adapter, rfl, hasked _, hpoll⟩⟩
  | case4 adapter stop rest' hask next hpoll hlt ih =>
    -- an overlong frame is passed over, and the call is asked again
    subst hstop
    cases hask
    have hmakes : Makes goal ⟨.look, stack.withAdapter adapter, events⟩ .dropped
        (.going ⟨.ask, stack.withAdapter next, events⟩) := .dropped hpoll
    have hfirst := (hasked adapter).trans hmakes.leads
    obtain ⟨hrest, ⟨hwaiting, hleads, hidle⟩ | ⟨frame, there, hdone, hleads, hframe⟩⟩ :=
      ih rfl hvalue
    · exact ⟨hrest, .inl ⟨hwaiting, hfirst.trans hleads, hidle⟩⟩
    · exact ⟨hrest, .inr ⟨frame, there, hdone, hfirst.trans hleads, hframe⟩⟩

/-- A call that looks for a datagram takes one frame after another until one carries a datagram, or
it has to sleep. -/
theorem leads_datagram (goal : Goal) (stack : Stack β) (events : List (Step Action Call))
    {transport last : Transport β} {stop rest : Stop} {progress : Progress Datagram}
    (hpending : goal.pending stack.backlog = false) (hstop : stop = .never)
    (hvalue : (transport.receiveUntil goal.capacity stop).value = (progress, rest, last)) :
    rest = .never ∧
    ((progress = .waiting ∧
      Leads goal ⟨.ask, { stack with transport }, events⟩
        ⟨.look, { stack with transport := last }, events⟩ ∧
      ∃ same, last.adapter.poll.value = (.idle, same)) ∨
    ∃ datagram there frame adapter, progress = .done datagram ∧
      Leads goal ⟨.ask, { stack with transport }, events⟩
        ⟨.look, { stack with transport := there }, events⟩ ∧
      there.adapter.poll.value = (.frame frame, adapter) ∧
      (Transport.dispatch { there with adapter } frame goal.capacity).value =
        (some datagram, last)) := by
  generalize hcapacity : goal.capacity = capacity at hvalue ⊢
  have hlook {transport : Transport β} {stop rest : Stop} {adapter : Adapter β}
      {progress : Progress Bytes} (hstop : stop = .never)
      (hframe : (transport.adapter.waitFrame stop).value = (progress, rest, adapter)) :=
    leads_look goal { stack with transport } events hpending hstop hframe
  fun_induction Transport.receiveUntil transport capacity stop with
  | case1 transport stop received rest adapter hframe =>
    -- a call that never stops is not stopped
    obtain ⟨-, ⟨hwaiting, -⟩ | ⟨_, _, hdone, -⟩⟩ := hlook hstop hframe
    · cases hwaiting
    · cases hdone
  | case2 transport stop received rest adapter hframe =>
    cases hvalue
    obtain ⟨hrest, ⟨-, hleads, hidle⟩ | ⟨_, _, hdone, -⟩⟩ := hlook hstop hframe
    · exact ⟨hrest, .inl ⟨rfl, hleads, hidle⟩⟩
    · cases hdone
  | case3 transport stop received frame rest adapter hframe _ _ datagram next hnext =>
    cases hvalue
    obtain ⟨hrest, ⟨hwaiting, -⟩ | ⟨frame, there, hdone, hleads, hpoll⟩⟩ := hlook hstop hframe
    · cases hwaiting
    · cases hdone
      exact ⟨hrest, .inr ⟨datagram, { transport with adapter := there }, frame, adapter, rfl,
        hleads, hpoll, hnext⟩⟩
  | case4 transport stop received frame rest adapter hframe dispatched records next hnext hlt ih =>
    -- the frame carries no datagram, and the call is asked again
    subst hcapacity
    obtain ⟨rfl, ⟨hwaiting, -⟩ | ⟨frame, there, hdone, hleads, hpoll⟩⟩ := hlook hstop hframe
    · cases hwaiting
    · cases hdone
      have hmakes : Makes goal ⟨.look, { stack with transport := { transport with
          adapter := there } }, events⟩ .absorbed
          (.going ⟨.ask, { stack with transport := next }, events⟩) := .absorbed hpoll hnext
      have hfirst := hleads.trans hmakes.leads
      obtain ⟨hrest, ⟨hwaiting, hlater, hidle⟩ | ⟨datagram, last, frame, adapter, hdone, hlater,
        hframe, hdispatch⟩⟩ := ih rfl hvalue
      · exact ⟨hrest, .inl ⟨hwaiting, hfirst.trans hlater, hidle⟩⟩
      · exact ⟨hrest, .inr ⟨datagram, last, frame, adapter, hdone, hfirst.trans hlater, hframe,
          hdispatch⟩⟩

/-- Goes on with a call up to its end or its next sleep. -/
def Goal.attempt (stack : Stack β) : Goal → Logged (Progress Datagram × Stack β)
  | any capacity => do
    let (progress, _, transport) ← stack.transport.receiveUntil capacity .never
    pure (progress, { stack with transport })
  | port own => stack.receiveOn own

/-- From a point of its loops a call comes to its answer, or falls asleep, as is given. -/
def Goal.Follows (goal : Goal) (point : Point) (stack : Stack β)
    (events : List (Step Action Call)) (progress : Progress Datagram) (next : Stack β) : Prop :=
  match progress with
  | .done datagram => ∃ turns,
      Course goal ⟨point, stack, events⟩ turns (.answered datagram next events)
  | .stopped => False
  | .waiting => Leads goal ⟨point, stack, events⟩
      ⟨.asleep next.adapter.arrival.generation, next, events⟩

/-- What follows behind a turn follows from in front of it. -/
theorem Goal.Follows.of_leads {point point' : Point} {stack stack' next : Stack β}
    {events : List (Step Action Call)} {progress : Progress Datagram}
    (hleads : Leads goal ⟨point, stack, events⟩ ⟨point', stack', events⟩)
    (h : goal.Follows point' stack' events progress next) :
    goal.Follows point stack events progress next := by
  cases progress with
  | done datagram =>
    obtain ⟨turns, hcourse⟩ := h
    exact hleads.exists_course hcourse
  | stopped => exact h
  | waiting => exact hleads.trans h

/-- A call that finds the ring with the card falls asleep. -/
theorem follows_slept {stack : Stack β} (events : List (Step Action Call)) {same : Adapter β}
    (hidle : stack.adapter.poll.value = (.idle, same)) :
    goal.Follows .look stack events .waiting stack :=
  Makes.leads (.slept hidle)

/-- What becomes of a call for any datagram. -/
theorem follows_any (capacity : Nat) (stack : Stack β) (events : List (Step Action Call)) :
    let attempt := (Goal.attempt stack (.any capacity)).value
    (Goal.any capacity).Follows .ask stack events attempt.1 attempt.2 := by
  intro attempt
  rcases hreceived : (stack.transport.receiveUntil capacity .never).value with
    ⟨progress, rest, transport⟩
  have hattempt : attempt = (progress, { stack with transport }) := by
    simp only [attempt, Goal.attempt, Logged.value_bind, hreceived, Logged.value_pure]
  rw [hattempt]
  obtain ⟨-, ⟨rfl, hleads, _, hidle⟩ | ⟨datagram, there, frame, adapter, rfl, hleads, hpoll,
    hdispatch⟩⟩ := leads_datagram (.any capacity) stack events rfl rfl hreceived
  · exact .of_leads hleads (follows_slept events hidle)
  · exact hleads.exists_course (.ended (.received hpoll hdispatch trivial))

/-- A call that looks at its queue first is served from there, or goes on as if it had not looked.
-/
theorem follows_queue {own : UInt16} {stack next : Stack β} {events : List (Step Action Call)}
    {progress : Progress Datagram} (hvalue : (stack.receiveOn own).value = (progress, next))
    (h : (Goal.port own).Follows .ask stack events progress next) :
    (Goal.port own).Follows .queue stack events progress next := by
  cases htake : stack.backlog.take? own with
  | none => exact h.of_leads (Makes.leads (.missed htake))
  | some taken =>
    rw [Stack.receiveOn_of_take? htake] at hvalue
    cases hvalue
    exact ⟨[.served], .ended (.served htake)⟩

/-- What becomes of a call for a port. -/
theorem follows_port {own : UInt16} {stack next : Stack β} (events : List (Step Action Call))
    {progress : Progress Datagram} (hvalue : (stack.receiveOn own).value = (progress, next)) :
    (Goal.port own).Follows .ask stack events progress next := by
  have hpending (stack : Stack β) :
      (Goal.port own).pending stack.backlog = (stack.backlog.take? own).isSome :=
    Goal.pending_eq_isSome _ _
  have hdatagram {stack : Stack β} {transport : Transport β} {rest : Stop}
      {progress : Progress Datagram} (htake : stack.backlog.take? own = none)
      (hreceived : (stack.transport.receiveUntil Host.frameCapacity .never).value =
        (progress, rest, transport)) :=
    leads_datagram (.port own) stack events ((hpending stack).trans (by rw [htake]; rfl)) rfl
      hreceived
  fun_induction Stack.receiveOn stack own with
  | case1 stack datagram rest htake =>
    cases hvalue
    have hstops := hpending stack
    rw [htake] at hstops
    exact ⟨[.stopped, .served], .going (.stopped hstops) (.ended (.served htake))⟩
  | case2 stack htake received rest transport hreceived =>
    -- a call that never stops is not stopped
    obtain ⟨-, ⟨hwaiting, -⟩ | ⟨_, _, _, _, hdone, -⟩⟩ := hdatagram htake hreceived
    · cases hwaiting
    · cases hdone
  | case3 stack htake received rest transport hreceived =>
    cases hvalue
    obtain ⟨-, ⟨-, hleads, _, hidle⟩ | ⟨_, _, _, _, hdone, -⟩⟩ := hdatagram htake hreceived
    · exact .of_leads hleads (follows_slept events hidle)
    · cases hdone
  | case4 stack htake received datagram rest transport hreceived hport =>
    cases hvalue
    obtain ⟨-, ⟨hwaiting, -⟩ | ⟨_, there, frame, adapter, hdone, hleads, hpoll, hdispatch⟩⟩ :=
      hdatagram htake hreceived
    · cases hwaiting
    · cases hdone
      exact hleads.exists_course (.ended (.received hpoll hdispatch hport))
  | case5 stack htake received datagram rest transport hreceived hport parked hlt ih =>
    -- the datagram is handed over to another port, and the call starts over
    obtain ⟨-, ⟨hwaiting, -⟩ | ⟨_, there, frame, adapter, hdone, hleads, hpoll, hdispatch⟩⟩ :=
      hdatagram htake hreceived
    · cases hwaiting
    · cases hdone
      have hmakes : Makes (.port own) ⟨.look, { stack with transport := there }, events⟩ .parked
          (.going ⟨.queue, parked.value, events⟩) := .parked hpoll hdispatch hport
      exact .of_leads (hleads.trans hmakes.leads) (follows_queue hvalue (ih hvalue))

/-- A call that is asked whether to stop comes to its answer, or falls asleep, as it does when it
runs. -/
theorem follows_ask (goal : Goal) (stack : Stack β) (events : List (Step Action Call)) :
    goal.Follows .ask stack events (goal.attempt stack).value.1 (goal.attempt stack).value.2 := by
  cases goal with
  | any capacity => exact follows_any capacity stack events
  | port own => exact follows_port events rfl

/-- Where a call starts: a reader of a port looks at its queue first. -/
def Goal.start : Goal → Point
  | any _ => .ask
  | port _ => .queue

/-- A call that starts comes to its answer, or falls asleep, as it does when it runs. -/
theorem follows_start (goal : Goal) (stack : Stack β) (events : List (Step Action Call)) :
    goal.Follows goal.start stack events (goal.attempt stack).value.1
      (goal.attempt stack).value.2 := by
  cases goal with
  | any capacity => exact follows_any capacity stack events
  | port own => exact follows_queue rfl (follows_port events rfl)

/-! ## From the first sleep to the end -/

variable {waiting : Waiting} {finish : Datagram → Answer}

/-- Going on with a waiting call is going on towards its goal. -/
theorem Seeks.resume_eq (h : Seeks waiting goal finish) (stack : Stack β) :
    (resume waiting stack).value = (attemptOf finish waiting (goal.attempt stack).value.1,
      (goal.attempt stack).value.2) := by
  cases h with
  | datagram capacity =>
    rcases hreceived : (stack.transport.receiveUntil capacity .never).value with
      ⟨progress, rest, transport⟩
    -- the patience that is handed back is without end
    obtain ⟨rfl, -⟩ := leads_datagram (.any capacity) stack [] rfl rfl hreceived
    simp only [resume, Goal.attempt, Logged.value_bind, hreceived, Logged.value_pure]
  | sysReceive received => rfl
  | port own reader => rfl

/-- A call that sleeps has a course, and it ends as it does when it runs. -/
theorem exists_course_yield (hseeks : Seeks waiting goal finish)
    (events : List (Step Action Call)) :
    ∀ (stack : Stack β) (seen : UInt64), ∃ turns ending reports,
      Course goal ⟨.asleep seen, stack, events⟩ turns ending ∧
      ((stackSystem β).yield waiting seen events stack).value =
        (ending.datagram?.map finish, reports, ending.stack) ∧
      reports.length + ending.left.length = events.length := by
  induction events with
  | nil =>
    intro stack seen
    exact ⟨[.abandoned], .abandoned stack, [], .ended .abandoned, rfl, rfl⟩
  | cons event events ih =>
    intro stack seen
    rcases hrun : ((stackSystem β).run event stack).value with ⟨report, next⟩
    by_cases hsame : next.adapter.arrival.generation = seen
    · obtain ⟨turns, ending, reports, hcourse, hyield, hcount⟩ := ih next seen
      refine ⟨_, ending, report :: reports, .going (.quiet hrun hsame) hcourse, ?_, ?_⟩
      · rw [System.value_yield_quiet hrun hsame, hyield]
      · rw [List.length_cons, List.length_cons]
        omega
    · -- the call is woken: it has its answer, or falls asleep again
      have hresume := hseeks.resume_eq next
      have hfollows := follows_ask goal next events
      rcases hattempt : (goal.attempt next).value with ⟨progress, last⟩
      rw [hattempt] at hresume hfollows
      cases progress with
      | done datagram =>
        obtain ⟨turns, hcourse⟩ := hfollows
        refine ⟨_, _, [report], .going (.woken hrun hsame) hcourse, ?_, ?_⟩
        · rw [System.value_yield_finished hrun hsame hresume]
          rfl
        · exact Nat.add_comm 1 events.length
      | stopped => exact hfollows.elim
      | waiting =>
        obtain ⟨turns, ending, reports, hcourse, hyield, hcount⟩ :=
          ih last last.adapter.arrival.generation
        obtain ⟨all, hall⟩ := Leads.exists_course hfollows hcourse
        refine ⟨_, ending, report :: reports, .going (.woken hrun hsame) hall, ?_, ?_⟩
        · have hagain : ((stackSystem β).yield waiting ((stackSystem β).generation last) events
              last).value = _ := hyield
          rw [System.value_yield_suspended hrun hsame hresume, hagain]
        · rw [List.length_cons, List.length_cons]
          omega

/-- A call that starts has a course, and it ends as it does when it runs. -/
theorem exists_course_run {call : Call} (hseeks : Seeks waiting goal finish) (stack : Stack β)
    (hcheck : call.check stack = .suspended waiting) (events : List (Step Action Call)) :
    ∃ turns ending reports, Course goal ⟨goal.start, stack, events⟩ turns ending ∧
      ((stackSystem β).run (.call call events) stack).value =
        (.mk (ending.datagram?.map finish) ((stackSystem β).view ending.stack) reports,
          ending.stack) ∧
      reports.length + ending.left.length = events.length := by
  have hfollows := follows_start goal stack events
  have hentered : ((stackSystem β).enter call stack).value =
      (attemptOf finish waiting (goal.attempt stack).value.1, (goal.attempt stack).value.2) := by
    show (enter call stack).value = _
    rw [enter, hcheck]
    exact hseeks.resume_eq stack
  rcases hattempt : (goal.attempt stack).value with ⟨progress, last⟩
  rw [hattempt] at hentered hfollows
  cases progress with
  | done datagram =>
    obtain ⟨turns, hcourse⟩ := hfollows
    exact ⟨turns, _, [], hcourse, System.value_run_finished hentered, Nat.zero_add _⟩
  | stopped => exact hfollows.elim
  | waiting =>
    obtain ⟨turns, ending, reports, hcourse, hyield, hcount⟩ :=
      exists_course_yield hseeks events last last.adapter.arrival.generation
    obtain ⟨all, hall⟩ := Leads.exists_course hfollows hcourse
    have hslept : ((stackSystem β).yield waiting ((stackSystem β).generation last) events
        last).value = _ := hyield
    refine ⟨all, ending, reports, hall, ?_, hcount⟩
    rw [System.value_run_suspended hentered, hslept]

/-- Every call that waits for a datagram ends, whatever runs while it waits. If its arguments are
found right, it has its datagram or is given up after a number of turns that the number of its
events and the size of the ring bound. In each sleep an event of the call runs, or it is given up.
When it is told to stop, it is served from its queue at once. From one sleep to the next it takes no
more frames than the ring has slots, and fewer if it was called on a stack that can be reached and
its events go through driver and card. -/
theorem receiving_ends (receive : Receive) (events : List (Step Action Call))
    (stack : Stack Emulated) :
    let view := (stackSystem Emulated).view
    let run := ((stackSystem Emulated).run (.call receive.call events) stack).value
    (∃ answer, receive.call.check stack = .finished answer ∧
      run = (.mk (some answer) (view stack) [], stack)) ∨
    ∃ waiting goal finish turns ending reports,
      receive.call.check stack = .suspended waiting ∧ Seeks waiting goal finish ∧
      Course goal ⟨goal.start, stack, events⟩ turns ending ∧
      (∀ turns' ending', Course goal ⟨goal.start, stack, events⟩ turns' ending' →
        turns' = turns ∧ ending' = ending) ∧
      run = (.mk (ending.datagram?.map finish) (view ending.stack) reports, ending.stack) ∧
      turns.length ≤ (events.length + 1) * (3 * Host.rxRingSize + 4) ∧
      reports.length = turns.countP Turn.yields ∧
      turns.countP Turn.yields + ending.left.length = events.length ∧
      (∀ before after, turns = before ++ .slept :: after →
        (∃ later, after = .quiet :: later ∨ after = .woken :: later) ∨ after = [.abandoned]) ∧
      (∀ before after, turns = before ++ .stopped :: after → after = [.served]) ∧
      ∀ before during after, turns = before ++ (during ++ after) → .slept ∉ during →
        during.countP Turn.takes ≤ Host.rxRingSize ∧
        (Reachable stack → (∀ event ∈ events, RegularStep event) →
          during.countP Turn.takes ≤ Host.rxRingSize - 1) := by
  intro view run
  rcases receive.check_cases stack with ⟨answer, hcheck⟩ | ⟨waiting, goal, finish, hcheck, hseeks⟩
  · have hentered : ((stackSystem Emulated).enter receive.call stack).value =
        (.finished answer, stack) := by
      show (enter receive.call stack).value = _
      rw [enter, hcheck]
      rfl
    exact .inl ⟨answer, hcheck, System.value_run_finished hentered⟩
  · obtain ⟨turns, ending, reports, hcourse, hrun, hcount⟩ :=
      exists_course_run hseeks stack hcheck events
    have hyields := hcourse.countP_yields
    refine .inr ⟨waiting, goal, finish, turns, ending, reports, hcheck, hseeks, hcourse,
      fun _ _ hother => hother.unique hcourse, hrun, ?_, ?_, hyields, ?_, ?_, ?_⟩
    · have hrank := rank_le goal ⟨goal.start, stack, events⟩
      have hready := ready_le stack
      have hlength := hcourse.length_le
      simp only [Place.measure, Host.rxRingSize] at hlength hrank hready ⊢
      omega
    · show reports.length = turns.countP Turn.yields
      dsimp only at hyields
      omega
    · rintro before after rfl
      exact hcourse.behind_slept
    · rintro before after rfl
      exact hcourse.behind_stopped
    · rintro before during after rfl hslept
      refine ⟨hcourse.taken_le (fun _ => True) _ (fun _ _ _ _ _ => trivial)
        (fun there _ => ready_le there.stack) trivial hslept, ?_⟩
      intro hreachable hregular
      refine hcourse.taken_le Place.Linked _ (fun _ _ _ hmakes => hmakes.linked) ?_
        ⟨hreachable.sound.linked, hregular⟩ hslept
      exact fun there hthere => Nat.le_sub_one_of_lt hthere.rxLinked.ready_lt

end NetStack.Bench
