import ProposalCheck.Config.Loading
import ProposalCheck.Report.Counts
import ProposalCheck.Report.Delivery
import ProposalCheck.Report.Help
import ProposalCheck.Report.Output

/-!
# Runs of a configured linter

The messages of a run go through a counter and get their hints, and end up as text or as plain data.
What a run breaks down from without a word to the user is a `Breakdown`.
-/

namespace ProposalCheck

open Data (Value)

/-- The messages of a run in one of the formats. -/
inductive Output where
  | text (s : Stream)
  /-- Plain data, the last message first. -/
  | json (kept : List Value)
deriving Inhabited

namespace Output

/-- No messages in a format. -/
def start : OutputFormat → Output
  | .text => text {}
  | .json => json []

/-- Takes messages in the format of those before. -/
def reporter : Reporter Output where
  report
    | text s, m =>
      let (s, stop) := Reporter.text.report s m
      (text s, stop)
    | json kept, m =>
      let (kept, stop) := Reporter.records.report kept m
      (json kept, stop)

/-- What is shown while messages come in. -/
def live : Output → String
  | text s => s.written
  | json _ => ""

/-- What is shown once all messages have come in. -/
def final : Output → String
  | text _ => ""
  | json kept => reportsJson (some 2) kept ++ "\n"

/-- All messages as plain data: a text, or a list. -/
def toValue : Output → Value
  | text s => .text s.written
  | json kept => .seq kept.reverse

end Output

/-- What the reporters of a run have taken note of: the number of messages, the slugs that have had
their hint, and the messages. -/
abbrev Tally := Counts × (List String × Output)

/-- What ends everything without a word to the user. -/
inductive Breakdown where
  | config (f : ConfigFault)
  | home (e : HomeError)
  | files (e : FileError) (p : Path)
  | run (c : Crash)
  /-- A severity is asked for without a rule. -/
  | missingRule
  /-- A configuration file is asked for without a path. -/
  | missingPath
deriving Repr, Inhabited

namespace Breakdown

/-- The wording of the error. -/
def message : Breakdown → String
  | config f => f.message
  | home e => e.message
  | files e p => e.message p
  | run c => c.message
  | missingRule => "unhashable type: 'list'"
  | missingPath => "expected str, bytes or os.PathLike object, not list"

end Breakdown

namespace Config

/-- The reporters of a run: messages are counted, get their hints and are put into a format. -/
def reporter (c : Config) : Reporter Tally :=
  (Output.reporter.withHelp fun slug => (c.help slug).mapError .template).counting

/-- A run of a linter with the reporters of a configuration. -/
def deliver (c : Config) (format : OutputFormat) (l : Linter) : Delivery Tally :=
  c.reporter.deliver ({}, [], Output.start format) l.run

end Config

end ProposalCheck
