import ProposalCheck.CommandLine.Arguments
import ProposalCheck.Config.Delivery

/-!
# The command

`Command.run` carries out a command line: it checks the sources under the configuration that the
command line changes. The exit status is zero if there is nothing to complain about, one if there
are errors in a source, and two if something kept the sources from being checked.
-/

namespace ProposalCheck.CommandLine

/-- What a command writes and how it ends. -/
structure Transcript where
  out : String := ""
  err : String := ""
  /-- The exit status, unless the command breaks down. -/
  ending : Except Breakdown Nat := .ok 0

namespace Status

/-- Nothing to complain about. -/
def fine : Nat := 0

/-- There are errors in a source. -/
def findings : Nat := 1

/-- Not everything could be checked. -/
def failure : Nat := 2

end Status

namespace Transcript

/-- An error that keeps the command from its work. -/
def failed (message : String) : Transcript :=
  { err := "Error: " ++ message ++ "\n", ending := .ok Status.failure }

/-- An error in the command line. -/
def misused (message : String) : Transcript :=
  { err := usage ++ programName ++ ": error: " ++ message ++ "\n", ending := .ok Status.failure }

/-- A text that was asked for. -/
def told (text : String) : Transcript :=
  { out := text, ending := .ok Status.fine }

/-- A breakdown. -/
def broken (b : Breakdown) : Transcript :=
  { ending := .error b }

/-- There is no configuration, or no linter for it. -/
def stopped : ConfigStop → Transcript
  | .refused e => failed e.message
  | .broken f => broken (.config f)

end Transcript

namespace Interruption

/-- The wording of an error in the value of a switch. -/
def ofSwitch (s : Switch) (message : String) : String :=
  "argument " ++ s.shown ++ ": " ++ message

/-- What the user is told instead of what the command line asks for. -/
def transcript : Interruption → Transcript
  | help => .told helpText
  | version => .told (programName ++ " " ++ CommandLine.version ++ "\n")
  | ambiguous word names =>
    .misused ("ambiguous option: " ++ word ++ " could match " ++ ", ".intercalate names)
  | extraValue s value => .misused (ofSwitch s ("ignored explicit argument " ++ Text.quoted value))
  | missingValue s => .misused (ofSwitch s "expected one argument")
  | unknownFormat given =>
    .misused (ofSwitch .format ("invalid choice: " ++ Text.quoted given ++ " (choose from "
      ++ ", ".intercalate (OutputFormat.all.map fun f => Text.quoted f.name) ++ ")"))
  | leftOver words => .misused ("unrecognized arguments: " ++ " ".intercalate words)
  | noSources => .misused "at least one source is required"

end Interruption

namespace Arguments

/-- The rules that are given a severity; `none` if one is not told. -/
def slugs? (a : Arguments) (s : Severity) : Option (List String) :=
  (a.severities.filter (·.1 == s)).mapM (·.2)

/-- The configuration with what the command line changes. -/
def configure (a : Arguments) (c : Config) : Except Transcript Config :=
  let c := if a.noStandardRules then { c with standardRules := false } else c
  Severity.all.foldlM (fun c s =>
    match a.slugs? s with
    | some slugs => .ok (c.overrideAll s slugs)
    | none => .error (.broken .missingRule)) c

/-- The configuration file that is asked for. -/
def configPath? (a : Arguments) : Except Transcript (Option Path) :=
  match a.config with
  | none => .ok none
  | some (some p) => .ok (some p)
  | some none => .error (.broken .missingPath)

/-- The format of messages under a configuration. -/
def formatUnder (a : Arguments) (c : Config) : OutputFormat :=
  a.format.getD ((OutputFormat.ofName? c.outputFormat).getD .text)

end Arguments

namespace Command

/-- The line that tells of a rule which stopped. -/
def failureLine (f : RuleFailure) : String :=
  "Error: lint \x60" ++ f.slug ++ "\x60 failed on " ++ f.origin.getD "None" ++ ": " ++ f.fault.message ++ "\n"

/-- The line that sums up errors; there is none without errors. -/
def errorLine (errors : Nat) : String :=
  if errors == 0 then "" else "validation failed with " ++ toString errors ++ " errors :(\n"

/-- The exit status after all sources have been checked. -/
def status (failures : List RuleFailure) (errors : Nat) : Nat :=
  if !failures.isEmpty then Status.failure
  else if errors != 0 then Status.findings
  else Status.fine

/-- What is written about a run, and the exit status. -/
def conclude (d : Delivery Tally) : Transcript :=
  let (counts, _, output) := d.state
  match d.error with
  | some e =>
    match e.unexpected? with
    | some c => { out := output.live, ending := .error (.run c) }
    | none => { Transcript.failed e.message with out := output.live }
  | none =>
    { out := output.live ++ output.final
      err := String.join (d.failures.map failureLine) ++ errorLine counts.error
      ending := .ok (status d.failures counts.error) }

/-- What a command line comes to: a linter with its sources, and how its messages are written. -/
structure Plan where
  config : Config
  format : OutputFormat
  linter : Linter

/-- The plan of a command line, or what the user is told instead. -/
def plan (env : Environment) (files : Files) (a : Arguments) : Except Transcript Plan := do
  let loaded ← (Config.load env files (← a.configPath?)).mapError .stopped
  let config ← a.configure loaded
  let linter ← (config.linter files.reader).mapError .stopped
  let paths ← (files.expand a.sources).mapError fun e => .broken (.files e.1 e.2)
  return { config, format := a.formatUnder config
           linter := (paths.map Source.file).foldl Linter.add linter }

/-- Checks the sources of a command line. -/
def check (env : Environment) (files : Files) (a : Arguments) : Transcript :=
  match plan env files a with
  | .ok p => conclude (p.config.deliver p.format p.linter)
  | .error t => t

/-- The paths at which a command line wants to know what is there, as far as the files that are
known show. -/
def looksAt (env : Environment) (files : Files) (a : Arguments) : List Path :=
  let configured := match Config.filePath env (a.config.bind id) with
    | .ok (some p) => [p]
    | _ => []
  let read := match plan env files a with
    | .ok p => p.linter.run.reads
    | .error _ => []
  configured ++ a.sources ++ read

/-- Carries out a command line. -/
def run (env : Environment) (files : Files) (words : List String) : Transcript :=
  match Arguments.read words with
  | .error i => i.transcript
  | .ok a => if a.listRules then .told rulesText else check env files a

end Command

end ProposalCheck.CommandLine
