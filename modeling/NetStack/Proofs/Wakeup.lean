import NetStack.Proofs.Calls

/-!
# No wake-up is lost

A call that waits and was not woken leaves nothing lying: no frame is stored, or an interrupt is
still due that will wake it, and nothing is parked for its port. `Idle` is what holds of such a
call. It holds when a call is suspended, since the call has just looked (`idle_of_suspended`), and
every move that wakes nobody keeps it (`Idle.step`). `idle_of_asleep` states it for every moment of
every run.
-/

namespace NetStack.Bench

/-- There is nothing to do for a call that waits: no frame is stored, or an interrupt is due, and
nothing is parked for the port that it waits for. -/
structure Idle (stack : Stack Emulated) (waiting : Waiting) : Prop where
  due : stack.adapter.stored = [] ∨ cause stack ≠ 0
  queue : ∀ port reader, waiting = .port port reader → stack.backlog.queue port = []

/-- An action that wakes nobody keeps a waiting call idle: a frame that comes in makes an interrupt
due. -/
theorem Idle.of_acts {arriving : List Bytes} {stack next : Stack Emulated} {waiting : Waiting}
    (h : Idle stack waiting) (hacts : Acts arriving stack next)
    (hsame : next.adapter.arrival.generation = stack.adapter.arrival.generation) :
    Idle next waiting where
  due := by
    rcases hacts.cause with hraised | ⟨hnone, hcause | hwoken⟩
    · exact .inr hraised
    · -- no frame came in, and the cause is as it was
      rw [hacts.stored, hnone, List.append_nil, hcause]
      exact h.due
    · exact absurd hsame hwoken
  queue := by
    intro port reader hwaiting
    rcases hacts.queue port with hqueue | ⟨hempty, -⟩
    · rw [hqueue]
      exact h.queue port reader hwaiting
    · exact hempty

/-- A call that runs and wakes nobody keeps another one idle: it only takes. -/
theorem Idle.of_runs {stack next : Stack Emulated} {attempt : Attempt Answer Waiting}
    {waiting : Waiting} (h : Idle stack waiting) (hruns : Runs stack attempt next)
    (hsame : next.adapter.arrival.generation = stack.adapter.arrival.generation) :
    Idle next waiting where
  due := by
    rcases h.due with hempty | hraised
    · -- nothing is left of nothing
      have hstored := hruns.stored
      rw [hempty] at hstored
      exact .inl (List.suffix_nil.1 hstored)
    · rw [← hruns.cause] at hraised
      exact .inr hraised
  queue := fun port reader hwaiting => hruns.queue hsame port (h.queue port reader hwaiting)

/-- Every regular move that wakes nobody keeps a waiting call idle. -/
theorem Idle.step {event : Event} {sleeping : List (Sleeper Waiting)} {waiting : Waiting}
    (h : Idle event.before waiting) (hsound : Sound event.before) (hregular : event.Regular)
    (hlegal : (stackSystem Emulated).Legal sleeping event)
    (hsame : event.after.adapter.arrival.generation =
      event.before.adapter.arrival.generation) : Idle event.after waiting := by
  rcases effect_of_legal hsound.linked hregular hlegal with ⟨action, answer, -, hacts⟩ |
    ⟨attempt, -, hruns⟩ | ⟨given, -, hafter⟩
  · exact h.of_acts hacts hsame
  · exact h.of_runs hruns hsame
  · rw [hafter]
    exact h

/-- A call that has to wait is idle: it has just looked. -/
theorem idle_of_suspended {event : Event} {sleeping : List (Sleeper Waiting)} {waiting : Waiting}
    (hsound : Sound event.before) (hregular : event.Regular)
    (hlegal : (stackSystem Emulated).Legal sleeping event)
    (hsuspended : event.move.suspended? = some waiting) : Idle event.after waiting := by
  have hattempt := Move.attempt?_of_suspended? hsuspended
  rcases effect_of_legal hsound.linked hregular hlegal with ⟨action, answer, hmove, -⟩ |
    ⟨attempt, hmove, hruns⟩ | ⟨given, hmove, -⟩
  · rw [hmove] at hattempt
    cases hattempt
  · rw [hmove] at hattempt
    cases hattempt
    obtain ⟨hstored, hqueue⟩ := hruns.suspended waiting rfl
    exact ⟨.inl hstored, hqueue⟩
  · rw [hmove] at hattempt
    cases hattempt

/-- A call can miss `2 ^ 64` broadcasts only in the course of at least `2 ^ 60` moves. -/
theorem missed_lt {start s : Stack Emulated} {past : List Event}
    {waiting : List (Sleeper Waiting)}
    (hpath : System.Path (stackSystem Emulated) start [] past s waiting) (hsound : Sound start)
    (hregular : ∀ event ∈ past, Event.Regular event) (hlength : past.length < 2 ^ 60) :
    ∀ sleeper ∈ waiting, sleeper.missed < 2 ^ 64 := by
  have hmissed := hpath.missed_le Sound Host.rxRingSize hsound
    (fun event hevent _ hlegal hbefore => hbefore.step (hregular event hevent) hlegal)
    (fun event hevent _ hlegal hbefore =>
      broadcasts_le hbefore.linked (hregular event hevent) hlegal)
  intro sleeper hmem
  have hle : sleeper.missed ≤ past.length * 16 := hmissed sleeper hmem
  omega

/-- At every moment of every run that goes through driver and card, a call that waits and finds the
generation as it noted it is idle. A generation that came around, after `2 ^ 64` broadcasts, would
look the same to the call; a run takes at least `2 ^ 60` moves to get there (`missed_lt`). -/
theorem idle_of_asleep (auto : Bool) (addresses : Addresses) :
    ∃ stack : Stack Emulated, (setUp (Emulated.start auto) addresses).value = .ok stack ∧
      ∀ (steps : List (Step Action Call)) (moves : Nat),
        let system := stackSystem Emulated
        let past := (system.journalAll steps stack).take moves
        let now := System.stateAfter stack past
        (∀ event ∈ past, Event.Regular event) →
        ∀ sleeper ∈ system.sleepers past,
          sleeper.seen = now.adapter.arrival.generation → sleeper.missed < 2 ^ 64 →
          (now.adapter.stored = [] ∨
            now.adapter.bus.registers.icr &&& Bits.causeReceived ≠ 0) ∧
          ∀ port reader, sleeper.rest = .port port reader → now.backlog.queue port = [] := by
  obtain ⟨stack, hvalue, hsetUp, -, hbacklog⟩ := exists_setUp auto addresses
  refine ⟨stack, hvalue, ?_⟩
  intro steps moves system past now hregular sleeper hmem hseen hmissed
  have hpath := System.journalAll_path (List.take_prefix moves (system.journalAll steps stack))
  -- a call is idle when it is suspended, and stays so until it is woken
  have hasleep := hpath.asleep Sound Idle (sound_setUp hsetUp hbacklog)
    (fun event hevent _ hlegal hsound => hsound.step (hregular event hevent) hlegal)
    (fun event hevent _ hlegal hsound hsame _ hidle =>
      hidle.step hsound (hregular event hevent) hlegal hsame)
    (fun event hevent _ hlegal hsound _ => idle_of_suspended hsound (hregular event hevent) hlegal)
  have hnone : sleeper.missed = 0 :=
    Nat.eq_zero_of_dvd_of_lt ((hpath.seen_eq_iff hmem).1 hseen) hmissed
  have hidle := hasleep sleeper hmem hnone
  exact ⟨hidle.due, hidle.queue⟩

/-- A reader that is called on a fresh stack has to wait. -/
theorem exists_suspended {stack : Stack Emulated} (h : stack.adapter.SetUp)
    (hbacklog : stack.backlog = Backlog.empty) (port : UInt16) :
    ∃ next, (enter (.receiveOn port) stack).value = (.suspended (.port port .plain), next) := by
  rcases hreceive : (stack.receiveOn port).value with ⟨progress, next⟩
  have hentered : (enter (.receiveOn port) stack).value =
      (attemptOf (Reader.plain.answer ·) (.port port .plain) progress, next) := by
    simp only [enter, Call.check, resume, Logged.value_bind, Logged.value_pure, hreceive]
  rcases Stack.receiveOn_spec h.rxLinked hreceive with ⟨datagram, rest, htake, -⟩ |
    ⟨consumed, passed, -, hpasses, -, hserved⟩
  · rw [hbacklog] at htake
    cases htake
  · -- there is nothing in the ring to take
    have hstored := hpasses.stored
    rw [show stack.adapter.stored = [] from h.stored] at hstored
    obtain ⟨rfl, -⟩ := List.append_eq_nil_iff.1 hstored.symm
    cases hserved with
    | done _ hall => simp at hall
    | waiting _ _ => exact ⟨next, hentered⟩

/-- A reader of port 7 that waits while a frame comes in. -/
theorem exists_idle_reader :
    ∃ stack : Stack Emulated, (setUp (Emulated.start true) ⟨none, none, none⟩).value = .ok stack ∧
      let past := ((stackSystem Emulated).journalAll
        [.call (.receiveOn 7) [.act (.control (.inject [1, 2, 3]))]] stack).take 2
      let now := System.stateAfter stack past
      ∃ sleeper ∈ (stackSystem Emulated).sleepers past, sleeper.rest = .port 7 .plain ∧
        (now.adapter.stored = [] ∨
          now.adapter.bus.registers.icr &&& Bits.causeReceived ≠ 0) ∧
        now.backlog.queue 7 = [] := by
  obtain ⟨stack, hvalue, hidle⟩ := idle_of_asleep true ⟨none, none, none⟩
  obtain ⟨fresh, hfresh, hsetUp, -, hbacklog⟩ := exists_setUp true ⟨none, none, none⟩
  rw [hvalue] at hfresh
  cases hfresh
  obtain ⟨next, hentered⟩ := exists_suspended hsetUp hbacklog 7
  have hentered' : ((stackSystem Emulated).enter (.receiveOn 7) stack).value =
      (.suspended (.port 7 .plain), next) := hentered
  rcases hacted : ((stackSystem Emulated).act (.control (.inject [1, 2, 3])) next).value with
    ⟨answer, after⟩
  have hpast : ((stackSystem Emulated).journalAll
      [.call (.receiveOn 7) [.act (.control (.inject [1, 2, 3]))]] stack).take 2 =
      [⟨stack, .enter (.receiveOn 7) (.suspended (.port 7 .plain)), next⟩,
        ⟨next, .act (.control (.inject [1, 2, 3])) answer, after⟩] := by
    simp only [System.journalAll, System.journal, hentered', System.journalYield, hacted,
      List.cons_append, List.take_succ_cons, List.take_zero]
  have hsame : after.adapter.arrival.generation = next.adapter.arrival.generation := by
    cases hacted
    rfl
  have hrun := hidle [.call (.receiveOn 7) [.act (.control (.inject [1, 2, 3]))]] 2
  have hpath := System.journalAll_path (List.take_prefix 2 ((stackSystem Emulated).journalAll
    [.call (.receiveOn 7) [.act (.control (.inject [1, 2, 3]))]] stack))
  refine ⟨stack, hvalue, ?_⟩
  dsimp only at hrun ⊢
  rw [hpast] at hrun hpath ⊢
  have hregular : ∀ event ∈ ([⟨stack, .enter (.receiveOn 7) (.suspended (.port 7 .plain)), next⟩,
      ⟨next, .act (.control (.inject [1, 2, 3])) answer, after⟩] : List Event), event.Regular := by
    simp [Event.Regular, Action.Regular]
  have hmissed := missed_lt hpath (sound_setUp hsetUp hbacklog) hregular (by simp)
  have hsleeper := hrun hregular _ List.mem_cons_self hsame.symm (hmissed _ List.mem_cons_self)
  exact ⟨_, List.mem_cons_self, rfl, hsleeper.1, hsleeper.2 7 .plain rfl⟩

end NetStack.Bench
