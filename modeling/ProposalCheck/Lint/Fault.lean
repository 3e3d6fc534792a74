import ProposalCheck.Document.Location
import ProposalCheck.Lint.Settings
import ProposalCheck.Pattern.Reading
import ProposalCheck.Reference.Cache
import ProposalCheck.Reference.Reader
import ProposalCheck.Template.Filling

/-!
# What can go wrong

Three kinds of trouble are kept apart. A `FetchError` says why a reference gives no document; rules
see it and may report it. A `Fault` stops one rule on one document and is recorded. A `Crash` ends
the whole run.
-/

namespace ProposalCheck

/-- Why a reference gives no document. -/
inductive FetchError where
  /-- Nothing can be read there. -/
  | unreadable (e : ReadError)
  /-- A proposal is in two places. -/
  | ambiguous (number : Int) (first second : Path)
  /-- What is read there is not a document. -/
  | malformed (e : DocumentError)
deriving Repr, Inhabited

namespace FetchError

/-- The wording of the error. -/
def message : FetchError → String
  | unreadable e => e.message
  | ambiguous number first second =>
    "ambiguous proposal " ++ toString number ++ ": both \x60" ++ first.text ++ "\x60 and \x60"
      ++ second.text ++ "\x60 exist"
  | malformed e => "malformed preamble: " ++ e.message

end FetchError

/-- What ends a run. -/
inductive Crash where
  /-- A pattern that is no pattern is used outside the rule that tells so. -/
  | pattern (e : PatternError)
  /-- A pattern has no first group. -/
  | noGroup
  /-- The first group of a pattern took no part in the match. -/
  | emptyGroup
  /-- A group of a match ends before it starts. -/
  | garbledGroup
  | numeral (e : Text.NumeralError)
  | line (e : LineError)
  | frozen (e : FrozenError)
  | template (e : TemplateError)
  | markup (e : Markup.MarkupError)
  | reader (e : ReadError)
  /-- A reporter cannot pass a message on. -/
  | report (reason : String)
deriving Repr, Inhabited

namespace Crash

/-- The wording of the error. -/
def message : Crash → String
  | pattern e => e.message
  | noGroup => "no such group"
  | emptyGroup =>
    "int() argument must be a string, a bytes-like object or a real number, not 'NoneType'"
  | garbledGroup =>
    "The span of capturing group is wrong, please report a bug for the re module."
  | numeral e => e.message
  | line e => e.message
  | frozen e => e.message
  | template e => e.message
  | markup e => e.message
  | reader e => e.message
  | report reason => "report failed: " ++ reason

/-- Whether a crash comes from a text that is not what it should be, or from a reporter. Whoever
asked for the run can be told so; other crashes are told to nobody. -/
def isExpected : Crash → Bool
  | pattern (.numeral _) => true
  | pattern .clashingOptions => true
  | numeral _ => true
  | line _ => true
  | template e => !e.isMisfit
  | markup _ => true
  | reader .impossiblePath => true
  | report _ => true
  | _ => false

end Crash

/-- What stops a rule. -/
inductive Fault where
  /-- The rule cannot do its work. -/
  | failed (reason : String)
  /-- The rule was set up with something that cannot be used. -/
  | misconfigured (reason : String)
  /-- The rule looked up a document that was never asked for. -/
  | undeclared (r : Reference)
  /-- The rule needs a document that is not there. -/
  | unavailable (e : FetchError)
deriving Repr, Inhabited

namespace Fault

/-- The wording of the error. -/
def message : Fault → String
  | failed reason => reason
  | misconfigured reason => reason
  | undeclared r => LookupError.undeclaredText r
  | unavailable e => e.message

end Fault

/-- Why a rule did not get to its end. -/
inductive Stop where
  | fault (f : Fault)
  | crash (c : Crash)
deriving Repr, Inhabited

namespace Stop

/-- A lookup that gives no document stops a rule that wants one. -/
def ofLookup : LookupError FetchError → Stop
  | .undeclared r => .fault (.undeclared r)
  | .failed e => .fault (.unavailable e)

end Stop

end ProposalCheck
