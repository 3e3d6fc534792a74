import ProposalCheck.Path

/-!
# Reading documents

Documents are read by their paths through a `Reader`, a function from paths to texts. A reader fails
in one of two ways: the text cannot be had, which is a fact about the document, or the reader itself
breaks, which ends everything.
-/

namespace ProposalCheck

/-- Why there is no text at a path. -/
inductive ReadError where
  /-- The text cannot be had. -/
  | unreadable (reason : String)
  /-- The path is none that files can have. -/
  | impossiblePath
  /-- The reader broke. -/
  | broken (reason : String)
deriving DecidableEq, Repr, Inhabited

namespace ReadError

/-- The wording of the error. -/
def message : ReadError → String
  | unreadable reason => reason
  | impossiblePath => "embedded null byte"
  | broken reason => reason

end ReadError

/-- A way to read texts by their paths. -/
abbrev Reader := Path → Except ReadError String

namespace Reader

/-- The reader that refuses every path. -/
def refusing : Reader := fun _ => .error (.unreadable "unsupported")

end Reader

end ProposalCheck
