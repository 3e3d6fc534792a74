import ProposalCheck.Lint.Rule

/-!
# Fields that must be there
-/

namespace ProposalCheck.Rule

namespace Required

/-- The names without a field. -/
def missing (names : List String) (p : Preamble) : List String :=
  names.filter fun n => (p.byName? n).isNone

/-- The title of the message about missing fields. -/
def title (names : List String) : String :=
  "preamble is missing header(s): \x60" ++ "\x60, \x60".intercalate names ++ "\x60"

/-- What is said about a document. -/
def check (names : List String) (slug : String) (c : Context) : Findings :=
  let missing := missing names c.preamble
  if missing.isEmpty then .none
  else .ofExcept ((c.document.line 1).mapError fun e => .crash (.line e)) fun first =>
    .report (((c.level.message (title missing)).withId slug).addSnippet
      { source := first, lineStart := 1, origin := c.origin, fold := true })

end Required

/-- The preamble has a field of each of these names. -/
def required (names : List String) : Rule where
  description := "The preamble must define every listed header."
  summary := "Required(names=" ++ Text.quotedList names ++ ")"
  discover _ := {}
  check := Required.check names

end ProposalCheck.Rule
