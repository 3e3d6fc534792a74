import ProposalCheck.Lint.Context
import ProposalCheck.Lint.Findings

/-!
# Rules

A rule looks at a document twice: first it says to which documents it will refer, then, once those
have been read, it says what it finds.
-/

namespace ProposalCheck

/-- A rule for documents. -/
structure Rule where
  /-- One sentence on what the rule asks for. -/
  description : String
  /-- The rule with what it was set up with, as a text. -/
  summary : String
  discover : Document → Discovery
  /-- The findings of the rule under a slug. -/
  check : String → Context → Findings
deriving Inhabited

end ProposalCheck
