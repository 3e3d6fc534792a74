import ProposalCheck.Diagnostic.Level

/-!
# Settings of a document

While a document is prepared, its default level may be changed. Once its settings are frozen, they
stay as they are.
-/

namespace ProposalCheck

/-- What may differ from one document to the next. -/
structure Settings where
  /-- The level of findings of the rules that have none of their own. -/
  defaultLevel : Level := .error
  frozen : Bool := false
deriving DecidableEq, Repr, Inhabited

/-- Frozen settings were to be changed. -/
structure FrozenError where
deriving DecidableEq, Repr, Inhabited

namespace FrozenError

/-- The wording of the error. -/
def message (_ : FrozenError) : String :=
  "cannot assign to field 'default_annotation_level'"

end FrozenError

namespace Settings

/-- The settings with another default level. -/
def setDefaultLevel (s : Settings) (l : Level) : Except FrozenError Settings :=
  if s.frozen then .error {} else .ok { s with defaultLevel := l }

/-- The settings from now on unchangeable. -/
def freeze (s : Settings) : Settings :=
  { s with frozen := true }

end Settings

end ProposalCheck
