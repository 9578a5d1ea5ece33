/-!
# Configuration documents

A configuration is a document of named sections, each with named values. A value is looked up with
the type that is wanted: a missing section, a missing key and a value of another type all count as
absent, and the default stands.
-/

namespace NetStack.Config

/-- A value in a section. -/
inductive Value where
  | integer (n : Int)
  | boolean (b : Bool)
  | text (s : String)
  /-- A value of a type that no setting has. -/
  | other
  deriving DecidableEq, Repr

/-- The values of a section by name. -/
abbrev Section := List (String × Value)

/-- The sections of a document by name. -/
abbrev Document := List (String × Section)

namespace Document

/-- The value of a key in a section, if there is one. -/
def find? (document : Document) (sectionName key : String) : Option Value :=
  (document.lookup sectionName).bind (·.lookup key)

/-- The integer under a key, or the default. -/
def integer (document : Document) (sectionName key : String) (default : Int) : Int :=
  match document.find? sectionName key with
  | some (.integer n) => n
  | _ => default

/-- The truth value under a key, or the default. -/
def boolean (document : Document) (sectionName key : String) (default : Bool) : Bool :=
  match document.find? sectionName key with
  | some (.boolean b) => b
  | _ => default

/-- The text under a key, or the default. -/
def text (document : Document) (sectionName key default : String) : String :=
  match document.find? sectionName key with
  | some (.text s) => s
  | _ => default

end Document

end NetStack.Config
