/-!
# Log records

An operation may note what happened as a record for the operator. A `Logged` value carries the
records of the operation beside its result, so that what an operation does to the state and what it
says about it stay apart.
-/

namespace NetStack

/-- How urgent a record is. -/
inductive Level where
  | error
  | warn
  | info
  | debug
  | trace
  deriving DecidableEq, Repr

/-- The name under which a level is printed. -/
def Level.name : Level → String
  | error => "ERROR"
  | warn => "WARN"
  | info => "INFO"
  | debug => "DEBUG"
  | trace => "TRACE"

/-- A note for the operator. -/
structure Record where
  level : Level
  text : String
  deriving DecidableEq, Repr

/-- The printed line of a record. -/
def Record.line (record : Record) : String :=
  s!"{record.level.name} {record.text}"

/-- A value together with the records written while it was found, in order. -/
structure Logged (α : Type) where
  value : α
  records : List Record

namespace Logged

/-- Logged values are equal if their results and their records are. -/
@[ext] theorem ext {α : Type} {x y : Logged α} (hvalue : x.value = y.value)
    (hrecords : x.records = y.records) : x = y := by
  cases x
  cases y
  simp_all

instance : Monad Logged where
  pure value := ⟨value, []⟩
  bind x f := ⟨(f x.value).value, x.records ++ (f x.value).records⟩

@[simp] theorem value_pure {α : Type} (a : α) : (pure a : Logged α).value = a := rfl

@[simp] theorem records_pure {α : Type} (a : α) : (pure a : Logged α).records = [] := rfl

@[simp] theorem value_bind {α β : Type} (x : Logged α) (f : α → Logged β) :
    (x >>= f).value = (f x.value).value := rfl

@[simp] theorem records_bind {α β : Type} (x : Logged α) (f : α → Logged β) :
    (x >>= f).records = x.records ++ (f x.value).records := rfl

/-- Records are kept in order however the operations are grouped. -/
instance : LawfulMonad Logged :=
  LawfulMonad.mk' Logged
    (fun x => ext rfl (List.append_nil x.records))
    (fun a f => ext rfl (List.nil_append (f a).records))
    (fun x f g => ext rfl
      (List.append_assoc x.records (f x.value).records (g (f x.value).value).records))

/-- Writes one record. -/
def note (level : Level) (text : String) : Logged Unit :=
  ⟨(), [⟨level, text⟩]⟩

@[simp] theorem value_note (level : Level) (text : String) : (note level text).value = () := rfl

/-- Writes one record if there is a reason to. -/
def noteIf (reason : Bool) (level : Level) (text : String) : Logged Unit :=
  ⟨(), if reason then [⟨level, text⟩] else []⟩

/-- The value with earlier records put in front of its own. -/
def after {α : Type} (x : Logged α) (earlier : List Record) : Logged α :=
  ⟨x.value, earlier ++ x.records⟩

@[simp] theorem value_after {α : Type} (x : Logged α) (earlier : List Record) :
    (x.after earlier).value = x.value := rfl

end Logged

end NetStack
