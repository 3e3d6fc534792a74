/-!
# Severity levels

A diagnostic and each mark inside it has one of five levels. A level has a name, under which it is
printed and by which `Level.ofName?` finds it again.
-/

namespace ProposalCheck

/-- The severity of a message or of an annotation. -/
inductive Level where
  | error
  | warning
  | info
  | note
  /-- Suggestions in the footers of a message. -/
  | help
deriving DecidableEq, Repr, Inhabited

namespace Level

/-- Every level, most severe first. -/
def all : List Level := [.error, .warning, .info, .note, .help]

/-- The name under which a level is printed. -/
def name : Level → String
  | error => "error"
  | warning => "warning"
  | info => "info"
  | note => "note"
  | help => "help"

/-- The level of a name. -/
def ofName? (s : String) : Option Level :=
  all.find? (·.name == s)

@[simp] theorem ofName?_name (l : Level) : ofName? l.name = some l := by
  cases l <;> decide

end Level

end ProposalCheck
