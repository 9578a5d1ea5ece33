import Mathlib.Algebra.GroupWithZero.Nat
import NetStack.Wait.Schedule

/-!
# Journals of cooperative runs

A run is a tree: calls yield to events, which may be calls themselves. Its journal lists the moves
in the order in which they happen, whatever their depth: an action runs, a call is entered, resumed
or abandoned. Between two moves nothing happens, so what holds after every beginning of a journal
holds at every step boundary and at every yield. The calls that wait at such a moment form a stack,
`sleepers`, which is read off the moves.

`path_journal` ties the journal to the run: each move is one of the system's, starts where the last
one ended, and resumes or abandons the innermost waiting call, which is resumed if it was woken and
abandoned if it was not; the journal ends in the state in which the run ends. `journalAll_path`
gives the same for every beginning of the journal of a list of steps, and is what an invariant is
proved along.
-/

namespace NetStack

/-- What happens at one moment of a run. -/
inductive Move (α κ θ ρ : Type) where
  /-- An action runs. -/
  | act (action : α) (answer : ρ)
  /-- A call is entered, and runs up to its answer or its first wait. -/
  | enter (call : κ) (attempt : Attempt ρ θ)
  /-- A waiting call that was woken goes on. -/
  | resume (rest : θ) (attempt : Attempt ρ θ)
  /-- A waiting call with no event left is given up. -/
  | abandon (rest : θ)

namespace Move

variable {α κ θ ρ : Type}

/-- How far the call comes that runs in a move. -/
def attempt? : Move α κ θ ρ → Option (Attempt ρ θ)
  | enter _ attempt => some attempt
  | resume _ attempt => some attempt
  | _ => none

/-- What is left of the call that a move suspends. -/
def suspended? (move : Move α κ θ ρ) : Option θ :=
  match move.attempt? with
  | some (.suspended rest) => some rest
  | _ => none

/-- The answer with which a call ends in a move. -/
def answer? (move : Move α κ θ ρ) : Option ρ :=
  match move.attempt? with
  | some (.finished answer) => some answer
  | _ => none

/-- A move that suspends a call is one in which a call runs. -/
theorem attempt?_of_suspended? {move : Move α κ θ ρ} {rest : θ}
    (h : move.suspended? = some rest) : move.attempt? = some (.suspended rest) := by
  unfold suspended? at h
  split at h
  · next hattempt =>
    cases h
    exact hattempt
  · cases h

end Move

/-- A move between two states. -/
structure Moment (σ α κ θ ρ : Type) where
  before : σ
  move : Move α κ θ ρ
  after : σ

namespace Moment

variable {σ α κ θ ρ τ : Type}

/-- What one more move adds to what is read off the moves. -/
theorem filterMap_snoc (read? : Moment σ α κ θ ρ → Option τ) (past : List (Moment σ α κ θ ρ))
    (moment : Moment σ α κ θ ρ) :
    (past ++ [moment]).filterMap read? = past.filterMap read? ++ (read? moment).toList := by
  rw [List.filterMap_append]
  cases h : read? moment <;> simp [h]

/-- A move of which nothing is read adds nothing. -/
theorem filterMap_of_none {read? : Moment σ α κ θ ρ → Option τ} (past : List (Moment σ α κ θ ρ))
    {moment : Moment σ α κ θ ρ} (h : read? moment = none) :
    (past ++ [moment]).filterMap read? = past.filterMap read? := by
  rw [filterMap_snoc, h]
  exact List.append_nil _

end Moment

/-- A call that waits. -/
structure Sleeper (θ : Type) where
  /-- What is left of the call. -/
  rest : θ
  /-- The generation that it noted. -/
  seen : UInt64
  /-- How often waiting calls were woken since. -/
  missed : Nat

/-- The sleeper after `count` more broadcasts. -/
def Sleeper.hear {θ : Type} (count : Nat) (sleeper : Sleeper θ) : Sleeper θ :=
  { sleeper with missed := sleeper.missed + count }

namespace System

variable {σ α κ θ ρ ν : Type}

mutual

/-- The moves of a step. -/
def journal (system : System σ α κ θ ρ ν) : Step α κ → σ → List (Moment σ α κ θ ρ)
  | .act action, s =>
    let (answer, next) := (system.act action s).value
    [⟨s, .act action answer, next⟩]
  | .call call events, s =>
    let (attempt, next) := (system.enter call s).value
    ⟨s, .enter call attempt, next⟩ ::
      match attempt with
      | .finished _ => []
      | .suspended rest => system.journalYield rest (system.generation next) events next

/-- The moves of a waiting call and of the events that run while it waits. -/
def journalYield (system : System σ α κ θ ρ ν) (rest : θ) (seen : UInt64) :
    List (Step α κ) → σ → List (Moment σ α κ θ ρ)
  | [], s => [⟨s, .abandon rest, s⟩]
  | event :: events, s =>
    let next := (system.run event s).value.2
    system.journal event s ++
      if system.generation next = seen then
        system.journalYield rest seen events next
      else
        let (attempt, last) := (system.resume rest next).value
        ⟨next, .resume rest attempt, last⟩ ::
          match attempt with
          | .finished _ => []
          | .suspended rest => system.journalYield rest (system.generation last) events last

end

/-- The moves of steps one after another. -/
def journalAll (system : System σ α κ θ ρ ν) : List (Step α κ) → σ → List (Moment σ α κ θ ρ)
  | [], _ => []
  | step :: steps, s =>
    system.journal step s ++ system.journalAll steps (system.run step s).value.2

/-- The state after some moves. -/
def stateAfter (start : σ) (past : List (Moment σ α κ θ ρ)) : σ :=
  past.foldl (fun _ moment => moment.after) start

/-- The number of broadcasts in a move. -/
def broadcasts (system : System σ α κ θ ρ ν) (moment : Moment σ α κ θ ρ) : Nat :=
  (system.generation moment.after - system.generation moment.before).toNat

/-- The waiting calls after a move, innermost first. -/
def track (system : System σ α κ θ ρ ν) (sleeping : List (Sleeper θ))
    (moment : Moment σ α κ θ ρ) : List (Sleeper θ) :=
  let older := sleeping.map (Sleeper.hear (system.broadcasts moment))
  let newly rest : Sleeper θ := { rest, seen := system.generation moment.after, missed := 0 }
  match moment.move with
  | .act _ _ => older
  | .enter _ (.finished _) => older
  | .enter _ (.suspended rest) => newly rest :: older
  | .resume _ (.finished _) => older.tail
  | .resume _ (.suspended rest) => newly rest :: older.tail
  | .abandon _ => older.tail

/-- The calls that wait after some moves, innermost first. -/
def sleepers (system : System σ α κ θ ρ ν) (past : List (Moment σ α κ θ ρ)) : List (Sleeper θ) :=
  past.foldl system.track []

/-- A move is one of the system's, made where the given calls wait. -/
def Legal (system : System σ α κ θ ρ ν) (sleeping : List (Sleeper θ))
    (moment : Moment σ α κ θ ρ) : Prop :=
  match moment.move with
  | .act action answer => (system.act action moment.before).value = (answer, moment.after)
  | .enter call attempt => (system.enter call moment.before).value = (attempt, moment.after)
  | .resume rest attempt =>
    (∃ sleeper ∈ sleeping.head?,
      sleeper.rest = rest ∧ sleeper.seen ≠ system.generation moment.before) ∧
      (system.resume rest moment.before).value = (attempt, moment.after)
  | .abandon rest =>
    (∃ sleeper ∈ sleeping.head?,
      sleeper.rest = rest ∧ sleeper.seen = system.generation moment.before) ∧
      moment.after = moment.before

/-- Legal moves one after another, with the state and the waiting calls that they lead to. -/
inductive Path (system : System σ α κ θ ρ ν) (start : σ) (sleeping : List (Sleeper θ)) :
    List (Moment σ α κ θ ρ) → σ → List (Sleeper θ) → Prop
  | nil : Path system start sleeping [] start sleeping
  | snoc {past : List (Moment σ α κ θ ρ)} {waiting : List (Sleeper θ)}
      {moment : Moment σ α κ θ ρ} (earlier : Path system start sleeping past moment.before waiting)
      (legal : system.Legal waiting moment) :
      Path system start sleeping (past ++ [moment]) moment.after (system.track waiting moment)

variable {system : System σ α κ θ ρ ν}

/-- What ties the state after an action, an entry or a resumption to the state before it, and every
state to itself, ties the states before and after a legal move. -/
theorem Legal.relates {sleeping : List (Sleeper θ)} {moment : Moment σ α κ θ ρ}
    (hlegal : system.Legal sleeping moment) (rel : σ → σ → Prop)
    (hact : ∀ action answer, moment.move = .act action answer →
      rel moment.before (system.act action moment.before).value.2)
    (henter : ∀ call, rel moment.before (system.enter call moment.before).value.2)
    (hresume : ∀ rest, rel moment.before (system.resume rest moment.before).value.2)
    (hrefl : rel moment.before moment.before) : rel moment.before moment.after := by
  obtain ⟨before, move, after⟩ := moment
  cases move with
  | act action answer =>
    have hafter : (system.act action before).value.2 = after := congrArg Prod.snd hlegal
    rw [← hafter]
    exact hact action answer rfl
  | enter call attempt =>
    have hafter : (system.enter call before).value.2 = after := congrArg Prod.snd hlegal
    rw [← hafter]
    exact henter call
  | resume rest attempt =>
    have hafter : (system.resume rest before).value.2 = after := congrArg Prod.snd hlegal.2
    rw [← hafter]
    exact hresume rest
  | abandon rest =>
    have hafter : after = before := hlegal.2
    rw [hafter]
    exact hrefl

/-- A single legal move is a path. -/
theorem Path.single {sleeping : List (Sleeper θ)} {moment : Moment σ α κ θ ρ}
    (legal : system.Legal sleeping moment) :
    Path system moment.before sleeping [moment] moment.after (system.track sleeping moment) :=
  Path.snoc .nil legal

/-- Paths are put together end to end. -/
theorem Path.append {a b c : σ} {asleep bsleep csleep : List (Sleeper θ)}
    {past later : List (Moment σ α κ θ ρ)} (first : Path system a asleep past b bsleep)
    (second : Path system b bsleep later c csleep) :
    Path system a asleep (past ++ later) c csleep := by
  induction second with
  | nil =>
    rw [List.append_nil]
    exact first
  | snoc _ legal ih =>
    rw [← List.append_assoc]
    exact Path.snoc ih legal

/-- Every beginning of a path is a path. -/
theorem Path.of_beginning {a b : σ} {asleep bsleep : List (Sleeper θ)}
    {past full : List (Moment σ α κ θ ρ)} (h : Path system a asleep full b bsleep)
    (hbegins : past <+: full) : ∃ s sleeping, Path system a asleep past s sleeping := by
  induction h with
  | nil =>
    rw [List.prefix_nil.1 hbegins]
    exact ⟨_, _, Path.nil⟩
  | snoc earlier legal ih =>
    rcases List.prefix_concat_iff.1 hbegins with rfl | hshorter
    · exact ⟨_, _, Path.snoc earlier legal⟩
    · exact ih hshorter

/-- The state after some moves is where the last one ends. -/
theorem stateAfter_snoc (start : σ) (past : List (Moment σ α κ θ ρ)) (moment : Moment σ α κ θ ρ) :
    stateAfter start (past ++ [moment]) = moment.after := by
  rw [stateAfter, List.foldl_append]
  rfl

/-- A path leads to the state after its last move. -/
theorem Path.eq_stateAfter {start s : σ} {sleeping waiting : List (Sleeper θ)}
    {past : List (Moment σ α κ θ ρ)} (h : Path system start sleeping past s waiting) :
    s = stateAfter start past := by
  cases h with
  | nil => rfl
  | snoc _ _ => rw [stateAfter_snoc]

/-- A path from where no call waits leads to the calls that its moves leave waiting. -/
theorem Path.eq_sleepers {start s : σ} {waiting : List (Sleeper θ)}
    {past : List (Moment σ α κ θ ρ)} (h : Path system start [] past s waiting) :
    waiting = system.sleepers past := by
  induction h with
  | nil => rfl
  | snoc _ _ ih =>
    rw [ih]
    simp [sleepers]

/-- A waiting call that hears of a move knows how far the generation is from what it noted. -/
theorem seen_hear {sleeper : Sleeper θ} {moment : Moment σ α κ θ ρ}
    (h : sleeper.seen + UInt64.ofNat sleeper.missed = system.generation moment.before) :
    (sleeper.hear (system.broadcasts moment)).seen +
      UInt64.ofNat (sleeper.hear (system.broadcasts moment)).missed =
        system.generation moment.after := by
  unfold Sleeper.hear broadcasts
  rw [UInt64.ofNat_add, UInt64.ofNat_toNat, ← UInt64.add_assoc, h, UInt64.add_comm,
    UInt64.sub_add_cancel]

/-- What a move leaves waiting: calls that waited before it, and the one that it suspends. -/
theorem mem_track {sleeping : List (Sleeper θ)} {moment : Moment σ α κ θ ρ} {sleeper : Sleeper θ}
    (h : sleeper ∈ system.track sleeping moment) :
    (∃ older ∈ sleeping, sleeper = older.hear (system.broadcasts moment)) ∨
    (moment.move.suspended? = some sleeper.rest ∧ sleeper.seen = system.generation moment.after ∧
      sleeper.missed = 0) := by
  have holder {sleepers : List (Sleeper θ)} (hsubset : sleepers ⊆ sleeping)
      (hmem : sleeper ∈ sleepers.map (Sleeper.hear (system.broadcasts moment))) :
      ∃ older ∈ sleeping, sleeper = older.hear (system.broadcasts moment) := by
    obtain ⟨older, hold, heq⟩ := List.mem_map.1 hmem
    exact ⟨older, hsubset hold, heq.symm⟩
  have htail : sleeping.tail ⊆ sleeping := fun _ hmem => List.mem_of_mem_tail hmem
  obtain ⟨before, move, after⟩ := moment
  -- whoever is not newly suspended has only heard of the move
  simp only [track, ← List.map_tail] at h
  cases move with
  | act action answer => exact .inl (holder (List.Subset.refl _) h)
  | enter call attempt =>
    cases attempt with
    | finished answer => exact .inl (holder (List.Subset.refl _) h)
    | suspended rest =>
      rcases List.mem_cons.1 h with rfl | hmem
      · exact .inr ⟨rfl, rfl, rfl⟩
      · exact .inl (holder (List.Subset.refl _) hmem)
  | resume rest attempt =>
    cases attempt with
    | finished answer => exact .inl (holder htail h)
    | suspended again =>
      rcases List.mem_cons.1 h with rfl | hmem
      · exact .inr ⟨rfl, rfl, rfl⟩
      · exact .inl (holder htail hmem)
  | abandon rest => exact .inl (holder htail h)

/-- What a waiting call noted, and the broadcasts that it missed since, make up the generation. -/
theorem Path.seen_add_missed {start s : σ} {waiting : List (Sleeper θ)}
    {past : List (Moment σ α κ θ ρ)} (h : Path system start [] past s waiting) :
    ∀ sleeper ∈ waiting, sleeper.seen + UInt64.ofNat sleeper.missed = system.generation s := by
  induction h with
  | nil => simp
  | snoc _ _ ih =>
    intro sleeper hmem
    rcases mem_track hmem with ⟨older, hold, rfl⟩ | ⟨-, hseen, hmissed⟩
    · exact seen_hear (ih older hold)
    · rw [hseen, hmissed]
      exact UInt64.add_zero _

/-- A waiting call finds the generation as it noted it if it has missed no broadcast, or so many
that the generation came around. -/
theorem Path.seen_eq_iff {start s : σ} {waiting : List (Sleeper θ)}
    {past : List (Moment σ α κ θ ρ)} (h : Path system start [] past s waiting)
    {sleeper : Sleeper θ} (hmem : sleeper ∈ waiting) :
    sleeper.seen = system.generation s ↔ 2 ^ 64 ∣ sleeper.missed := by
  have hsum := h.seen_add_missed sleeper hmem
  have hzero : UInt64.ofNat sleeper.missed = 0 ↔ 2 ^ 64 ∣ sleeper.missed := by
    rw [← UInt64.toNat_inj, UInt64.toNat_ofNat']
    exact (Nat.dvd_iff_mod_eq_zero ..).symm
  rw [← hzero, ← hsum]
  -- the generation is what was noted, moved on by the broadcasts that were missed
  constructor
  · intro hsame
    have hdifference := congrArg (· - sleeper.seen) hsame
    rw [UInt64.add_comm] at hdifference
    simp only [UInt64.add_sub_cancel, UInt64.sub_self] at hdifference
    exact hdifference.symm
  · intro hnone
    rw [hnone]
    exact (UInt64.add_zero _).symm

/-- What every move of a path keeps of the moves so far and the state holds at its end. -/
theorem Path.history (Inv : List (Moment σ α κ θ ρ) → σ → Prop) {start s : σ}
    {sleeping waiting : List (Sleeper θ)} {past : List (Moment σ α κ θ ρ)}
    (h : Path system start sleeping past s waiting) (hstart : Inv [] start)
    (hstep : ∀ earlier, ∀ moment ∈ past, ∀ asleep, system.Legal asleep moment →
      Inv earlier moment.before → Inv (earlier ++ [moment]) moment.after) : Inv past s := by
  induction h with
  | nil => exact hstart
  | @snoc past asleep moment _ hlegal ih =>
    have hbefore := ih fun earlier other hmem => hstep earlier other (List.mem_append_left _ hmem)
    exact hstep past moment (by simp) asleep hlegal hbefore

/-- What every move of a path keeps of the state holds at its end. -/
theorem Path.invariant (Inv : σ → Prop) {start s : σ} {sleeping waiting : List (Sleeper θ)}
    {past : List (Moment σ α κ θ ρ)} (h : Path system start sleeping past s waiting)
    (hstart : Inv start)
    (hstep : ∀ moment ∈ past, ∀ asleep, system.Legal asleep moment → Inv moment.before →
      Inv moment.after) : Inv s :=
  h.history (fun _ => Inv) hstart fun _ => hstep

/-- A waiting call has missed no more broadcasts than the moves can have made. Meanwhile an
invariant of the states may be used. -/
theorem Path.missed_le (Inv : σ → Prop) (bound : Nat) {start s : σ} {waiting : List (Sleeper θ)}
    {past : List (Moment σ α κ θ ρ)} (h : Path system start [] past s waiting) (hstart : Inv start)
    (hinv : ∀ moment ∈ past, ∀ asleep, system.Legal asleep moment → Inv moment.before →
      Inv moment.after)
    (hbound : ∀ moment ∈ past, ∀ asleep, system.Legal asleep moment → Inv moment.before →
      system.broadcasts moment ≤ bound) :
    ∀ sleeper ∈ waiting, sleeper.missed ≤ past.length * bound := by
  induction h with
  | nil => simp
  | @snoc past asleep moment hearlier hlegal ih =>
    obtain ⟨hinvs, -⟩ := List.forall_mem_append.1 hinv
    obtain ⟨hbounds, hbound⟩ := List.forall_mem_append.1 hbound
    have hbefore : Inv moment.before := hearlier.invariant Inv hstart hinvs
    intro sleeper hmem
    rw [List.length_append, List.length_singleton, Nat.add_mul, Nat.one_mul]
    rcases mem_track hmem with ⟨older, hold, rfl⟩ | ⟨-, -, hmissed⟩
    · exact Nat.add_le_add (ih hinvs hbounds older hold)
        (hbound moment (List.mem_singleton_self _) asleep hlegal hbefore)
    · rw [hmissed]
      exact Nat.zero_le _

/-- What holds of a call when it is suspended, and is kept by every move without a broadcast, holds
of every call that waits and has missed no broadcast. Meanwhile an invariant of the states may be
used. -/
theorem Path.asleep (Inv : σ → Prop) (Asleep : σ → θ → Prop) {start s : σ}
    {waiting : List (Sleeper θ)} {past : List (Moment σ α κ θ ρ)}
    (h : Path system start [] past s waiting) (hstart : Inv start)
    (hinv : ∀ moment ∈ past, ∀ asleep, system.Legal asleep moment → Inv moment.before →
      Inv moment.after)
    (hkeep : ∀ moment ∈ past, ∀ asleep, system.Legal asleep moment → Inv moment.before →
      system.generation moment.after = system.generation moment.before →
      ∀ rest, Asleep moment.before rest → Asleep moment.after rest)
    (hnew : ∀ moment ∈ past, ∀ asleep, system.Legal asleep moment → Inv moment.before →
      ∀ rest, moment.move.suspended? = some rest → Asleep moment.after rest) :
    ∀ sleeper ∈ waiting, sleeper.missed = 0 → Asleep s sleeper.rest := by
  induction h with
  | nil => simp
  | @snoc past asleep moment hearlier hlegal ih =>
    obtain ⟨hinvs, -⟩ := List.forall_mem_append.1 hinv
    obtain ⟨hkeeps, hkeep⟩ := List.forall_mem_append.1 hkeep
    obtain ⟨hnews, hnew⟩ := List.forall_mem_append.1 hnew
    have hbefore : Inv moment.before := hearlier.invariant Inv hstart hinvs
    intro sleeper hmem hmissed
    rcases mem_track hmem with ⟨older, holder, rfl⟩ | ⟨hsuspended, -, -⟩
    · -- no broadcast was missed, neither before this move nor in it
      have hsum : older.missed + system.broadcasts moment = 0 := hmissed
      have hnone : system.broadcasts moment = 0 := Nat.eq_zero_of_add_eq_zero_left hsum
      have hsame : system.generation moment.after = system.generation moment.before := by
        have hzero : system.generation moment.after - system.generation moment.before = 0 :=
          UInt64.toNat.inj hnone
        have hsum' := congrArg (· + system.generation moment.before) hzero
        simpa [UInt64.sub_add_cancel] using hsum'
      have hasleep := ih hinvs hkeeps hnews older holder (Nat.eq_zero_of_add_eq_zero_right hsum)
      exact hkeep moment (List.mem_singleton_self _) asleep hlegal hbefore hsame _ hasleep
    · exact hnew moment (List.mem_singleton_self _) asleep hlegal hbefore _ hsuspended

/-- Broadcasts that are heard one after another add up. -/
theorem Sleeper.map_hear_hear (sleeping : List (Sleeper θ)) (first later : Nat) :
    (sleeping.map (Sleeper.hear first)).map (Sleeper.hear later) =
      sleeping.map (Sleeper.hear (first + later)) := by
  rw [List.map_map]
  apply List.map_congr_left
  intro sleeper _
  show Sleeper.hear later (Sleeper.hear first sleeper) = _
  simp only [Sleeper.hear, Nat.add_assoc]

mutual

/-- The journal of a step is a path to where the step ends. The calls that wait around the step wait
afterwards as before, and may have heard broadcasts. -/
theorem path_journal (system : System σ α κ θ ρ ν) :
    ∀ (step : Step α κ) (s : σ) (sleeping : List (Sleeper θ)),
      ∃ heard, Path system s sleeping (system.journal step s) (system.run step s).value.2
        (sleeping.map (Sleeper.hear heard))
  | .act action, s, sleeping => by
    rcases hacted : (system.act action s).value with ⟨answer, next⟩
    have hlegal : system.Legal sleeping ⟨s, .act action answer, next⟩ := hacted
    simp only [journal, run, Logged.value_bind, Logged.value_pure, hacted]
    exact ⟨_, Path.single hlegal⟩
  | .call call events, s, sleeping => by
    rcases hentered : (system.enter call s).value with ⟨attempt, next⟩
    have hlegal : system.Legal sleeping ⟨s, .enter call attempt, next⟩ := hentered
    simp only [journal, run, Logged.value_bind, hentered]
    cases attempt with
    | finished answer => exact ⟨_, Path.single hlegal⟩
    | suspended rest =>
      obtain ⟨heard, hyield⟩ := path_journalYield system events rest (system.generation next) 0
        next (sleeping.map
          (Sleeper.hear (system.broadcasts ⟨s, .enter call (.suspended rest), next⟩))) rfl
      have hboth := (Path.single hlegal).append hyield
      rw [Sleeper.map_hear_hear] at hboth
      exact ⟨_, hboth⟩

/-- The journal of a waiting call is a path to where it has its answer or is given up. -/
theorem path_journalYield (system : System σ α κ θ ρ ν) :
    ∀ (events : List (Step α κ)) (rest : θ) (seen : UInt64) (missed : Nat) (s : σ)
      (sleeping : List (Sleeper θ)), seen = system.generation s →
      ∃ heard, Path system s (⟨rest, seen, missed⟩ :: sleeping)
        (system.journalYield rest seen events s)
        (system.yield rest seen events s).value.2.2 (sleeping.map (Sleeper.hear heard))
  | [], rest, seen, missed, s, sleeping, hseen => by
    have hlegal : system.Legal (⟨rest, seen, missed⟩ :: sleeping) ⟨s, .abandon rest, s⟩ :=
      ⟨⟨_, rfl, rfl, hseen⟩, rfl⟩
    simp only [journalYield, yield]
    exact ⟨_, Path.single hlegal⟩
  | event :: events, rest, seen, missed, s, sleeping, _ => by
    obtain ⟨heard, hevent⟩ := path_journal system event s (⟨rest, seen, missed⟩ :: sleeping)
    simp only [journalYield, yield, Logged.value_bind]
    generalize (system.run event s).value.2 = next at hevent ⊢
    split
    · next hsame =>
      -- the generation is as the call noted it: the call goes on waiting
      obtain ⟨later, hyield⟩ := path_journalYield system events rest seen (missed + heard) next
        (sleeping.map (Sleeper.hear heard)) hsame.symm
      have hboth := hevent.append hyield
      rw [Sleeper.map_hear_hear] at hboth
      exact ⟨_, hboth⟩
    · next hwoken =>
      -- the call runs again, and notes the generation anew if it has to wait again
      rcases hresumed : (system.resume rest next).value with ⟨attempt, last⟩
      have hlegal : system.Legal
          (⟨rest, seen, missed + heard⟩ :: sleeping.map (Sleeper.hear heard))
          ⟨next, .resume rest attempt, last⟩ :=
        ⟨⟨_, rfl, rfl, fun heq => hwoken heq.symm⟩, hresumed⟩
      have hthere := hevent.append (Path.single hlegal)
      simp only [Logged.value_bind, hresumed]
      cases attempt with
      | finished answer =>
        refine ⟨heard + system.broadcasts ⟨next, .resume rest (.finished answer), last⟩, ?_⟩
        rw [← Sleeper.map_hear_hear]
        exact hthere
      | suspended again =>
        obtain ⟨later, hyield⟩ := path_journalYield system events again (system.generation last) 0
          last ((sleeping.map (Sleeper.hear heard)).map
            (Sleeper.hear (system.broadcasts ⟨next, .resume rest (.suspended again), last⟩))) rfl
        have hall := hthere.append hyield
        rw [Sleeper.map_hear_hear, Sleeper.map_hear_hear, List.append_assoc] at hall
        exact ⟨_, hall⟩

end

/-- The journal of steps one after another is a path to where the last one ends, with no call left
waiting. -/
theorem path_journalAll (system : System σ α κ θ ρ ν) (steps : List (Step α κ)) (s : σ) :
    Path system s [] (system.journalAll steps s) (system.runAll steps s).2 [] := by
  induction steps generalizing s with
  | nil => exact Path.nil
  | cons step steps ih =>
    obtain ⟨heard, hstep⟩ := path_journal system step s []
    exact hstep.append (ih _)

/-- Every beginning of the journal of a run is a path to the state and the waiting calls of its last
moment. -/
theorem journalAll_path {steps : List (Step α κ)} {start : σ}
    {past : List (Moment σ α κ θ ρ)} (h : past <+: system.journalAll steps start) :
    Path system start [] past (stateAfter start past) (system.sleepers past) := by
  obtain ⟨s, waiting, hpast⟩ := (path_journalAll system steps start).of_beginning h
  rw [← hpast.eq_stateAfter, ← hpast.eq_sleepers]
  exact hpast

end System

end NetStack
