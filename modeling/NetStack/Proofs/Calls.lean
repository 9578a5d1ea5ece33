import NetStack.Proofs.Actions
import NetStack.Proofs.Journal
import NetStack.Proofs.SetUp

/-!
# What calls do to a stack

A call that runs, from its start or after a wait, only takes: frames leave the ring from the oldest
on, and no queue is filled without a wake-up. If it has to wait again, it leaves nothing that it
could have taken. `Runs` says this of every call, whatever it waits for. `exists_setUp` is where
runs start.
-/

namespace NetStack.Bench

/-- A stack before and after a call ran until it had its answer or had to wait. -/
structure Runs (stack : Stack Emulated) (attempt : Attempt Answer Waiting)
    (next : Stack Emulated) : Prop where
  linked : next.adapter.RxLinked
  stored : next.adapter.stored <:+ stack.adapter.stored
  cause : cause next = cause stack
  table : next.table = stack.table
  /-- Those that wait are woken for each datagram that is parked, and a ring holds only so many. -/
  broadcasts : (next.adapter.arrival.generation - stack.adapter.arrival.generation).toNat ≤
    Host.rxRingSize
  /-- As long as nobody is woken, no queue is filled. -/
  queue : next.adapter.arrival.generation = stack.adapter.arrival.generation →
    ∀ port, stack.backlog.queue port = [] → next.backlog.queue port = []
  bounded : stack.backlog.Bounded → next.backlog.Bounded
  /-- A call that has to wait found nothing. -/
  suspended : ∀ rest, attempt = .suspended rest → next.adapter.stored = [] ∧
    ∀ port reader, rest = .port port reader → next.backlog.queue port = []

/-- A call that has its answer at once leaves everything as it is. -/
theorem Runs.refl {stack : Stack Emulated} (h : stack.adapter.RxLinked) (answer : Answer) :
    Runs stack (.finished answer) stack where
  linked := h
  stored := List.suffix_rfl
  cause := rfl
  table := rfl
  broadcasts := broadcasts_of_arrival rfl _
  queue := fun _ _ hempty => hempty
  bounded := fun hbounded => hbounded
  suspended := fun _ hattempt => by cases hattempt

/-- The generation tells how many datagrams a reader parked: a ring holds too few frames to bring it
around. -/
theorem broadcasts_of_passes {consumed : List Bytes} {passed : List Datagram}
    {stack next : Stack Emulated} (h : Stack.Passes consumed passed stack next)
    (hlength : (Stack.parked stack.table passed).length < Host.rxRingSize) :
    (next.adapter.arrival.generation - stack.adapter.arrival.generation).toNat =
      (Stack.parked stack.table passed).length := by
  have hsmall : (Stack.parked stack.table passed).length < 2 ^ 64 :=
    Nat.lt_trans hlength (by decide)
  rw [h.generation, UInt64.add_comm, UInt64.add_sub_cancel]
  exact UInt64.toNat_ofNat_of_lt' hsmall

/-- A reader that wakes nobody has parked nothing. -/
theorem backlog_eq_of_generation_eq {consumed : List Bytes} {passed : List Datagram}
    {stack next : Stack Emulated} (h : Stack.Passes consumed passed stack next)
    (hlength : (Stack.parked stack.table passed).length < Host.rxRingSize)
    (hsame : next.adapter.arrival.generation = stack.adapter.arrival.generation) :
    next.backlog = stack.backlog := by
  have hbroadcasts := broadcasts_of_passes h hlength
  rw [hsame, UInt64.sub_self] at hbroadcasts
  have hnone : Stack.parked stack.table passed = [] :=
    List.length_eq_zero_iff.1 hbroadcasts.symm
  rw [h.backlog, hnone, Backlog.parkAll_nil]

/-- A call that drains the ring and may pass datagrams on. -/
theorem Runs.of_passes {consumed : List Bytes} {passed : List Datagram}
    {stack next : Stack Emulated} {attempt : Attempt Answer Waiting}
    (h : Stack.Passes consumed passed stack next)
    (hlength : (Stack.parked stack.table passed).length < Host.rxRingSize)
    (hsuspended : ∀ rest, attempt = .suspended rest → next.adapter.stored = [] ∧
      ∀ port reader, rest = .port port reader → next.backlog.queue port = []) :
    Runs stack attempt next where
  linked := h.linked
  stored := ⟨consumed, h.stored.symm⟩
  cause := h.received
  table := h.table
  broadcasts := by
    rw [broadcasts_of_passes h hlength]
    exact Nat.le_of_lt hlength
  queue := by
    intro hsame port hempty
    rw [backlog_eq_of_generation_eq h hlength hsame]
    exact hempty
  bounded := by
    intro hbounded
    rw [h.backlog]
    exact hbounded.parkAll _
  suspended := hsuspended

/-- What a call that takes any datagram does. -/
theorem Runs.of_receiveUntil {stack : Stack Emulated} {transport : Transport Emulated}
    {capacity : Nat} {stop left : Stop} {progress : Progress Datagram} {rest : Waiting}
    (h : stack.adapter.RxLinked) (finish : Datagram → Answer)
    (hrest : ∀ port reader, rest ≠ .port port reader)
    (hvalue : (stack.transport.receiveUntil capacity stop).value = (progress, left, transport)) :
    Runs stack (attemptOf finish rest progress) { stack with transport } := by
  obtain ⟨consumed, hdrains, hfound⟩ := Transport.receiveUntil_spec h hvalue
  refine .of_passes (Stack.Passes.of_drains hdrains) (by simp [Stack.parked]) ?_
  intro rest' hattempt
  cases hfound with
  | done => cases hattempt
  | stopped => cases hattempt
  | waiting _ hleft =>
    cases hattempt
    exact ⟨hleft, fun port reader heq => absurd heq (hrest port reader)⟩

/-- What a call that takes any frame does. -/
theorem Runs.of_waitFrame {stack : Stack Emulated} {adapter : Adapter Emulated} {stop left : Stop}
    {progress : Progress Bytes} (h : stack.adapter.RxLinked)
    (hvalue : (stack.adapter.waitFrame stop).value = (progress, left, adapter)) :
    Runs stack (attemptOf .frame (.frame left) progress) (stack.withAdapter adapter) := by
  have hpasses {consumed : List Bytes} (hdrains : Drains consumed stack.adapter adapter) :
      Stack.Passes consumed [] stack (stack.withAdapter adapter) :=
    Stack.Passes.of_drains hdrains
  rcases h.waitFrame_cases hvalue with ⟨rfl, -, rfl⟩ | ⟨rfl, -, rfl, hempty⟩ |
    ⟨frame, rfl, -, htakes⟩
  · exact Runs.refl h _
  · refine .of_passes (hpasses (.of_sameRx h (Adapter.SameRx.refl _))) (by simp [Stack.parked]) ?_
    intro rest hattempt
    cases hattempt
    exact ⟨hempty, fun port reader heq => by cases heq⟩
  · refine .of_passes (hpasses (.of_takes htakes)) (by simp [Stack.parked]) ?_
    intro rest hattempt
    cases hattempt

/-- What a call that reads from a port does. -/
theorem Runs.of_receiveOn {stack next : Stack Emulated} {port : UInt16} {reader : Reader}
    {progress : Progress Datagram} (h : stack.adapter.RxLinked)
    (hvalue : (stack.receiveOn port).value = (progress, next)) :
    Runs stack (attemptOf (reader.answer ·) (.port port reader) progress) next := by
  rcases Stack.receiveOn_spec h hvalue with ⟨datagram, rest, htake, rfl, rfl⟩ |
    ⟨consumed, passed, hempty, hpasses, hports, hserved⟩
  · -- a datagram taken from the queue leaves the ring as it is
    have hrest := Backlog.eq_dropOldest_of_take? htake
    refine ⟨h, List.suffix_rfl, rfl, rfl, broadcasts_of_arrival rfl _, ?_, ?_,
      fun _ hattempt => by cases hattempt⟩
    · intro _ other hother
      show rest.queue other = []
      rw [hrest, Backlog.queue_dropOldest]
      split
      · next heq => rw [← heq, hother, List.tail_nil]
      · exact hother
    · intro hbounded
      show rest.Bounded
      rw [hrest]
      exact hbounded.dropOldest port
  · refine .of_passes hpasses (hpasses.length_le hserved) ?_
    intro rest hattempt
    cases hserved with
    | done => cases hattempt
    | waiting hleft _ =>
      cases hattempt
      -- the reader's own queue was empty, and it parks nothing for itself
      refine ⟨hleft, fun port' reader' heq => ?_⟩
      cases heq
      exact (hpasses.queue_eq hports).trans hempty

/-- What every call does when it runs. -/
theorem resume_spec {stack next : Stack Emulated} {waiting : Waiting}
    {attempt : Attempt Answer Waiting} (h : stack.adapter.RxLinked)
    (hvalue : (resume waiting stack).value = (attempt, next)) : Runs stack attempt next := by
  cases waiting with
  | frame stop =>
    cases hvalue
    exact .of_waitFrame h rfl
  | datagram capacity stop =>
    cases hvalue
    exact .of_receiveUntil h _ (by simp) rfl
  | sysReceive received =>
    cases hvalue
    exact .of_receiveUntil h _ (by simp) rfl
  | port port reader =>
    cases hvalue
    exact .of_receiveOn h rfl

/-- What every call does when it is entered. -/
theorem enter_spec {stack next : Stack Emulated} {call : Call}
    {attempt : Attempt Answer Waiting} (h : stack.adapter.RxLinked)
    (hvalue : (enter call stack).value = (attempt, next)) : Runs stack attempt next := by
  unfold enter at hvalue
  split at hvalue
  · cases hvalue
    exact Runs.refl h _
  · exact resume_spec h hvalue

/-- A moment of a run of a stack over the emulated card. -/
abbrev Event := Moment (Stack Emulated) Action Call Waiting Answer

/-- A move is regular if it is a regular action or a call. -/
def Event.Regular (event : Event) : Prop :=
  match event.move with
  | .act action _ => action.Regular
  | _ => True

/-- What every regular move is: an action, a call that runs, or a call that is given up. -/
theorem effect_of_legal {event : Event} {sleeping : List (Sleeper Waiting)}
    (h : event.before.adapter.RxLinked) (hregular : event.Regular)
    (hlegal : (stackSystem Emulated).Legal sleeping event) :
    (∃ action answer, event.move = .act action answer ∧
      Acts (arriving event.before action answer) event.before event.after) ∨
    (∃ attempt, event.move.attempt? = some attempt ∧ Runs event.before attempt event.after) ∨
    (∃ waiting, event.move = .abandon waiting ∧ event.after = event.before) := by
  obtain ⟨before, move, after⟩ := event
  cases move with
  | act action answer => exact .inl ⟨action, answer, rfl, act_spec h hregular hlegal⟩
  | enter call attempt => exact .inr (.inl ⟨attempt, rfl, enter_spec h hlegal⟩)
  | resume waiting attempt => exact .inr (.inl ⟨attempt, rfl, resume_spec h hlegal.2⟩)
  | abandon waiting => exact .inr (.inr ⟨waiting, rfl, hlegal.2⟩)

/-- In a regular move those that wait are woken at most as often as a ring has slots. -/
theorem broadcasts_le {event : Event} {sleeping : List (Sleeper Waiting)}
    (h : event.before.adapter.RxLinked) (hregular : event.Regular)
    (hlegal : (stackSystem Emulated).Legal sleeping event) :
    (stackSystem Emulated).broadcasts event ≤ Host.rxRingSize := by
  rcases effect_of_legal h hregular hlegal with ⟨action, answer, -, hacts⟩ |
    ⟨attempt, -, hruns⟩ | ⟨waiting, -, hsame⟩
  · exact Nat.le_trans hacts.broadcasts (by decide)
  · exact hruns.broadcasts
  · exact broadcasts_of_arrival (congrArg (·.adapter.arrival) hsame) _

/-- What holds of a stack as long as it is used through driver and card. -/
structure Sound (stack : Stack Emulated) : Prop where
  linked : stack.adapter.RxLinked
  bounded : stack.backlog.Bounded

/-- Every regular move keeps a stack sound. -/
theorem Sound.step {event : Event} {sleeping : List (Sleeper Waiting)} (h : Sound event.before)
    (hregular : event.Regular) (hlegal : (stackSystem Emulated).Legal sleeping event) :
    Sound event.after := by
  rcases effect_of_legal h.linked hregular hlegal with ⟨action, answer, -, hacts⟩ |
    ⟨attempt, -, hruns⟩ | ⟨waiting, -, hsame⟩
  · refine ⟨hacts.linked, fun port => ?_⟩
    rcases hacts.queue port with hsame | ⟨hempty, -⟩
    · rw [hsame]
      exact h.bounded port
    · rw [hempty]
      exact Nat.zero_le _
  · exact ⟨hruns.linked, hruns.bounded h.bounded⟩
  · rw [hsame]
    exact h

/-- Setting up a stack over the emulated card always succeeds, and leaves it without sockets and
without parked datagrams. -/
theorem exists_setUp (auto : Bool) (addresses : Addresses) :
    ∃ stack : Stack Emulated, (setUp (Emulated.start auto) addresses).value = .ok stack ∧
      stack.adapter.SetUp ∧ stack.table = SocketTable.empty ∧ stack.backlog = Backlog.empty := by
  obtain ⟨adapter, rest, hinit, hsetUp⟩ :=
    Adapter.exists_init auto (addresses.mac.getD Host.mac) Heap.start
  simp only [setUp, Logged.value_bind, hinit]
  exact ⟨_, rfl, hsetUp, rfl, rfl⟩

/-- A stack that was just set up is sound. -/
theorem sound_setUp {stack : Stack Emulated} (h : stack.adapter.SetUp)
    (hbacklog : stack.backlog = Backlog.empty) : Sound stack := by
  refine ⟨h.rxLinked, fun port => ?_⟩
  rw [hbacklog]
  exact Nat.zero_le _

/-- A stack that can be reached: it was set up, and then used through driver and card. -/
def Reachable (stack : Stack Emulated) : Prop :=
  ∃ (auto : Bool) (addresses : Addresses) (start : Stack Emulated)
    (steps : List (Step Action Call)) (past : List Event),
    (setUp (Emulated.start auto) addresses).value = .ok start ∧
    past <+: (stackSystem Emulated).journalAll steps start ∧
    (∀ event ∈ past, event.Regular) ∧ stack = System.stateAfter start past

/-- A stack that was just set up can be reached. -/
theorem reachable_of_setUp {auto : Bool} {addresses : Addresses} {start : Stack Emulated}
    (h : (setUp (Emulated.start auto) addresses).value = .ok start) : Reachable start :=
  ⟨auto, addresses, start, [], [], h, List.nil_prefix, by simp, rfl⟩

/-- A stack that can be reached is sound. -/
theorem Reachable.sound {stack : Stack Emulated} (h : Reachable stack) : Sound stack := by
  obtain ⟨auto, addresses, start, steps, past, hstart, hpast, hregular, rfl⟩ := h
  obtain ⟨start', hstart', hsetUp, -, hbacklog⟩ := exists_setUp auto addresses
  rw [hstart'] at hstart
  cases hstart
  exact System.Path.invariant Sound (System.journalAll_path hpast) (sound_setUp hsetUp hbacklog)
    fun event hevent _ hlegal hsound => hsound.step (hregular event hevent) hlegal

end NetStack.Bench
