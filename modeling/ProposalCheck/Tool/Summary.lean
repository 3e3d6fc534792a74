import ProposalCheck.Config.Delivery

/-!
# Checks for other programs

Other programs ask for one document to be checked and get a summary: how many errors and warnings
there are, the messages, and the rules that stopped. `Tool.checkFile` checks a file and
`Tool.checkText` a text.
-/

namespace ProposalCheck

open Data (Value)

/-- What a check comes to. -/
structure Summary where
  /-- The name of the document. -/
  path : Option String
  errors : Nat
  warnings : Nat
  output : Output
  failures : List RuleFailure

/-- A rule that stopped, as plain data. -/
def RuleFailure.toValue (f : RuleFailure) : Value := .record [
  (.text "slug", .text f.slug),
  (.text "origin", Record.ofText? f.origin),
  (.text "phase", .text f.phase.name),
  (.text "error", .text f.fault.message)]

/-- A summary as plain data. -/
def Summary.toValue (s : Summary) : Value := .record [
  (.text "path", Record.ofText? s.path),
  (.text "errors", .int s.errors),
  (.text "warnings", .int s.warnings),
  (.text "diagnostics", s.output.toValue),
  (.text "rule_failures", .seq (s.failures.map RuleFailure.toValue))]

namespace Tool

/-- Why there is no summary. -/
inductive Failure where
  | fileNotFound (p : Path)
  | unknownFormat (given : String)
  | config (e : ConfigError)
  | run (e : RunError)
  /-- Nobody is told what happened. -/
  | breakdown (b : Breakdown)
deriving Inhabited

/-- The wording of a failure. -/
def Failure.message : Failure → String
  | fileNotFound p => "File not found: " ++ p.text
  | unknownFormat given => "Unknown format: " ++ given
  | config e => e.message
  | run e => e.message
  | breakdown b => b.message

/-- The failure that keeps a configuration from being used. -/
def Failure.ofStop : ConfigStop → Failure
  | .refused e => .config e
  | .broken f => .breakdown (.config f)

/-- The format of a name. -/
def readFormat (name : String) : Except Failure OutputFormat :=
  match OutputFormat.ofName? name with
  | some f => .ok f
  | none => .error (.unknownFormat name)

/-- Checks one source. -/
def check (c : Config) (files : Files) (s : Source) (format : OutputFormat) : Except Failure Summary := do
  let l ← (c.linter files.reader).mapError Failure.ofStop
  let d := c.deliver format (l.add s)
  match d.error with
  | some e =>
    match e.unexpected? with
    | some c => throw (.breakdown (.run c))
    | none => throw (.run e)
  | none =>
    let (counts, _, output) := d.state
    return { path := s.origin, errors := counts.error, warnings := counts.warning, output
             failures := d.failures }

/-- Checks the file at a path. -/
def checkFile (c : Config) (home : String → Option Path) (files : Files) (path format : String) :
    Except Failure Summary := do
  let p ← ((Path.ofText path).expandHome home).mapError fun e => .breakdown (.home e)
  unless ← (files.holds p).mapError fun e => .breakdown (.files e p) do throw (.fileNotFound p)
  check c files (.file p) (← readFormat format)

/-- Checks a text under the name of its origin. -/
def checkText (c : Config) (files : Files) (text : String) (origin : Option String) (format : String) :
    Except Failure Summary := do
  check c files (.text text origin) (← readFormat format)

/-- The shipped rules with what they ask for, as plain data. -/
def rules : Value := .record [
  (.text "rules", .record (Shipped.descriptions.map fun e => (.text e.1, .text e.2)))]

/-- What the other program gets: the summary, or a text that tells why there is none. -/
def answer (r : Except Failure Summary) : Except Breakdown Value :=
  match r with
  | .ok s => .ok s.toValue
  | .error (.breakdown b) => .error b
  | .error f => .ok (.record [(.text "error", .text f.message)])

end Tool

end ProposalCheck
