import NetStack.Config.Build
import NetStack.Proofs.Requirements

/-!
# Sequences of configuration runs

A run succeeds exactly if its document, or the empty one where there is none, asks for acceptable
settings, whatever the file holds (`fault_run_eq_none_iff`). The file then holds the constants of
these settings (`fileOf_run`); a run that fails leaves it alone (`file_run_of_refused`). After any
sequence of runs in a directory without a file, the file is therefore that of the last acceptable
document alone (`Latest`), and `runs_law` says all of this of each run of a sequence.
-/

namespace NetStack.Config

/-- What a run asks for: the values of its document, or of the empty one where there is none. -/
def requested (document : Option Document) : Request :=
  Request.ofDocument (document.getD [])

/-- Whether a document asks for nothing that is refused. -/
def Acceptable (document : Option Document) : Prop :=
  ∀ requirement ∈ (requested document).requirements, requirement.met

/-- The file that a document stands for: the constants of the settings that it asks for. -/
def FileOf (document : Option Document) (file : Output) : Prop :=
  ∃ settings, (requested document).Yields settings ∧ file = some settings.constants

/-- The settings of a request are determined by it. -/
theorem Request.Yields.unique {request : Request} {settings other : Settings}
    (h : request.Yields settings) (hother : request.Yields other) : settings = other := by
  have hip := h.localIp.symm.trans hother.localIp
  have hmac := h.localMac.symm.trans hother.localMac
  have hgateway := h.gatewayMac.symm.trans hother.gatewayMac
  rw [h.eq, hother.eq, Option.some.inj hip, Option.some.inj hmac, Option.some.inj hgateway]

/-- A document stands for one file only. -/
theorem FileOf.unique {document : Option Document} {file other : Output}
    (h : FileOf document file) (hother : FileOf document other) : file = other := by
  obtain ⟨settings, hyields, rfl⟩ := h
  obtain ⟨settings', hyields', rfl⟩ := hother
  rw [hyields.unique hyields']

/-! ## One run -/

/-- What a run comes to, given what the check of its document comes to. -/
theorem run_cases (document : Option Document) (file : Output) :
    (∃ fault, (requested document).check = .error fault ∧
      (run document file).1.fault = some fault ∧ (run document file).1.written = false ∧
      (run document file).2 = file) ∨
    (∃ settings, (requested document).check = .ok settings ∧
      (run document file).1.fault = none ∧
      ((run document file).1.written = true ↔ file ≠ some settings.constants) ∧
      (run document file).2 = some settings.constants) := by
  unfold run requested
  cases (Request.ofDocument (document.getD [])).check with
  | error fault => exact .inl ⟨fault, rfl, rfl, rfl, rfl⟩
  | ok settings =>
    refine .inr ⟨settings, rfl, ?_⟩
    by_cases hsame : file = some settings.constants
    · simp only [hsame, if_true, ne_eq, not_true, Bool.false_eq_true, and_self]
    · simp only [hsame, if_false, ne_eq, not_false_eq_true, and_self]

/-- A run succeeds exactly if its document is acceptable. -/
theorem fault_run_eq_none_iff (document : Option Document) (file : Output) :
    (run document file).1.fault = none ↔ Acceptable document := by
  unfold Acceptable
  rw [← (checked_check (requested document)).succeeds_iff]
  obtain ⟨fault, hcheck, hfault, -⟩ | ⟨settings, hcheck, hfault, -⟩ := run_cases document file
  · rw [hcheck, hfault]
    exact ⟨(nomatch ·), fun ⟨_, h⟩ => nomatch h⟩
  · exact iff_of_true hfault ⟨settings, hcheck⟩

/-- A run fails exactly with the fault of the first requirement that is not met. -/
theorem fault_run_eq_some_iff (document : Option Document) (file : Output) (fault : Fault) :
    (run document file).1.fault = some fault ↔
      FirstUnmet (requested document).requirements fault := by
  rw [← (checked_check (requested document)).fails_iff]
  obtain ⟨other, hcheck, hfault, -⟩ | ⟨settings, hcheck, hfault, -⟩ := run_cases document file
  · rw [hcheck, hfault, Option.some.injEq, Except.error.injEq]
  · rw [hcheck, hfault]
    exact ⟨(nomatch ·), (nomatch ·)⟩

/-- An acceptable document puts its file in the place of any other. -/
theorem fileOf_run {document : Option Document} (h : Acceptable document) (file : Output) :
    FileOf document (run document file).2 := by
  have hnone := (fault_run_eq_none_iff document file).2 h
  obtain ⟨fault, -, hfault, -⟩ | ⟨settings, hcheck, -, -, hfile⟩ := run_cases document file
  · rw [hfault] at hnone
    exact nomatch hnone
  · exact ⟨settings, ((checked_check _).ok settings hcheck).2, hfile⟩

/-- A document that is refused leaves the file alone. -/
theorem file_run_of_refused {document : Option Document} (h : ¬Acceptable document)
    (file : Output) : (run document file).2 = file := by
  obtain ⟨fault, -, -, -, hfile⟩ | ⟨settings, -, hnone, -⟩ := run_cases document file
  · exact hfile
  · exact absurd ((fault_run_eq_none_iff document file).1 hnone) h

/-- The file is written exactly if it changes. -/
theorem written_run_iff (document : Option Document) (file : Output) :
    (run document file).1.written = true ↔ (run document file).2 ≠ file := by
  obtain ⟨fault, -, -, hwritten, hfile⟩ | ⟨settings, -, -, hwritten, hfile⟩ :=
    run_cases document file
  · rw [hwritten, hfile]
    exact ⟨(nomatch ·), fun h => absurd rfl h⟩
  · rw [hwritten, hfile]
    exact ne_comm

/-- A run that is repeated comes to the same and writes nothing. -/
theorem run_run (document : Option Document) (file : Output) :
    run document (run document file).2 =
      ({ (run document file).1 with written := false }, (run document file).2) := by
  unfold run
  cases (Request.ofDocument (document.getD [])).check with
  | error fault => rfl
  | ok settings =>
    by_cases hsame : file = some settings.constants
    · simp only [hsame, if_true]
    · simp only [hsame, if_false, if_true]

/-! ## Sequences of runs -/

/-- The file after some runs. -/
def fileAfter (file : Output) : List (Option Document) → Output
  | [] => file
  | document :: rest => fileAfter (run document file).2 rest

/-- Runs behind other runs go on with their file. -/
theorem runs_append (file : Output) (earlier later : List (Option Document)) :
    runs file (earlier ++ later) = runs file earlier ++ runs (fileAfter file earlier) later := by
  induction earlier generalizing file with
  | nil => rfl
  | cons document earlier ih =>
    rw [List.cons_append, runs, ih]
    rfl

/-- Every run of a sequence is reported. -/
theorem length_runs (file : Output) (documents : List (Option Document)) :
    (runs file documents).length = documents.length := by
  induction documents generalizing file with
  | nil => rfl
  | cons document rest ih => rw [runs, List.length_cons, List.length_cons, ih]

/-- A run is reported with what the runs before it left. -/
theorem getElem?_runs (file : Output) (earlier later : List (Option Document))
    (document : Option Document) :
    (runs file (earlier ++ document :: later))[earlier.length]? =
      some (run document (fileAfter file earlier)) := by
  rw [runs_append, runs, List.getElem?_append_right (Nat.le_of_eq (length_runs file earlier)),
    length_runs, Nat.sub_self, List.getElem?_cons_zero]

/-- One more run. -/
theorem fileAfter_snoc (file : Output) (earlier : List (Option Document))
    (document : Option Document) :
    fileAfter file (earlier ++ [document]) = (run document (fileAfter file earlier)).2 := by
  induction earlier generalizing file with
  | nil => rfl
  | cons first earlier ih => exact ih _

/-- The file is that of the last acceptable document, whatever the others are; there is none as long
as no document was acceptable. -/
structure Latest (done : List (Option Document)) (file : Output) : Prop where
  absent : (∀ document ∈ done, ¬Acceptable document) → file = none
  last : ∀ earlier document later, done = earlier ++ document :: later → Acceptable document →
    (∀ other ∈ later, ¬Acceptable other) → FileOf document file

/-- Where one more element is put behind a list, a place of the longer list is the new one or was
there before. -/
theorem snoc_cases {α : Type} {done earlier later : List α} {new place : α}
    (h : done ++ [new] = earlier ++ place :: later) :
    (later = [] ∧ place = new) ∨
      ∃ front, later = front ++ [new] ∧ done = earlier ++ place :: front := by
  obtain rfl | ⟨front, back, rfl⟩ := List.eq_nil_or_concat later
  · obtain ⟨-, hplace⟩ := List.append_inj' h rfl
    exact .inl ⟨rfl, (List.head_eq_of_cons_eq hplace).symm⟩
  · rw [List.concat_eq_append, ← List.cons_append, ← List.append_assoc] at h
    obtain ⟨hdone, hnew⟩ := List.append_inj' h rfl
    rw [← List.head_eq_of_cons_eq hnew]
    exact .inr ⟨front, List.concat_eq_append, hdone⟩

/-- One more run keeps the file the latest one. -/
theorem Latest.snoc {done : List (Option Document)} {file : Output} (h : Latest done file)
    (document : Option Document) : Latest (done ++ [document]) (run document file).2 := by
  by_cases hacceptable : Acceptable document
  · constructor
    · intro hall
      exact absurd hacceptable (hall document List.mem_concat_self)
    · intro earlier last later hdone _ hlater
      -- only the new document has no acceptable one behind it
      obtain ⟨-, rfl⟩ | ⟨front, rfl, -⟩ := snoc_cases hdone
      · exact fileOf_run hacceptable file
      · exact absurd hacceptable (hlater document List.mem_concat_self)
  · rw [file_run_of_refused hacceptable]
    constructor
    · intro hall
      exact h.absent fun other hother => hall other (List.mem_append_left _ hother)
    · intro earlier last later hdone hlast hlater
      obtain ⟨-, rfl⟩ | ⟨front, rfl, hbefore⟩ := snoc_cases hdone
      · exact absurd hlast hacceptable
      · exact h.last earlier last front hbefore hlast fun other hother =>
          hlater other (List.mem_append_left _ hother)

/-- Further runs keep the file the latest one. -/
theorem Latest.append {done : List (Option Document)} {file : Output} (h : Latest done file)
    (documents : List (Option Document)) :
    Latest (done ++ documents) (fileAfter file documents) := by
  induction documents generalizing done file with
  | nil =>
    rw [List.append_nil]
    exact h
  | cons document documents ih =>
    have hlonger := ih (h.snoc document)
    rw [List.append_assoc] at hlonger
    exact hlonger

/-- Before any run there is no file. -/
theorem latest_nil : Latest [] none where
  absent _ := rfl
  last earlier document later h := absurd h.symm (List.append_ne_nil_of_right_ne_nil _ (by simp))

/-- What holds of a run and the file that it leaves, in a directory that held no file before the
runs in front of it. -/
structure RunLaw (earlier : List (Option Document)) (document : Option Document)
    (outcome : Outcome) (file : Output) : Prop where
  /-- It succeeds exactly if all requirements are met. -/
  succeeds : outcome.fault = none ↔ Acceptable document
  /-- It fails exactly with the fault of the first requirement that is not met. -/
  fails : ∀ fault, outcome.fault = some fault ↔
    FirstUnmet (requested document).requirements fault
  /-- The file is that of the last acceptable document so far. -/
  latest : Latest (earlier ++ [document]) file
  /-- If it fails, the file is as it was. -/
  refused : outcome.fault ≠ none → file = fileAfter none earlier
  /-- The file is written exactly if it changes. -/
  written : outcome.written = true ↔ file ≠ fileAfter none earlier
  /-- The same run again comes to the same and writes nothing. -/
  repeated : run document file = ({ outcome with written := false }, file)

/-- Every run of every sequence, in a directory that holds no file at first, obeys the law. -/
theorem runs_law (earlier later : List (Option Document)) (document : Option Document) :
    ∃ outcome,
      (runs none (earlier ++ document :: later))[earlier.length]? =
        some (outcome, fileAfter none (earlier ++ [document])) ∧
      RunLaw earlier document outcome (fileAfter none (earlier ++ [document])) := by
  rw [fileAfter_snoc]
  refine ⟨(run document (fileAfter none earlier)).1, getElem?_runs none earlier later document, ?_⟩
  have hsucceeds := fault_run_eq_none_iff document (fileAfter none earlier)
  constructor
  · exact hsucceeds
  · exact fault_run_eq_some_iff document _
  · exact (latest_nil.append earlier).snoc document
  · intro hfault
    exact file_run_of_refused (fun h => hfault (hsucceeds.2 h)) _
  · exact written_run_iff document _
  · exact run_run document _

end NetStack.Config
