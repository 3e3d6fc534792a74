import ProposalCheck.Config.Basic
import ProposalCheck.Yaml.Reading

/-!
# Where configurations come from

A configuration is read from a file, if there is one, and then changed by the environment.
-/

namespace ProposalCheck

/-- What the environment sets. An empty text sets nothing. -/
structure Environment where
  /-- The path of the configuration file. -/
  config : Option String := none
  proposalFormat : Option String := none
  outputFormat : Option String := none
  helpUrl : Option String := none
  /-- The home directories by the words for them, which start with a tilde. -/
  home : String → Option Path := fun _ => none

namespace Environment

/-- A text, unless it is empty. -/
def given (s : Option String) : Option String :=
  s.filter fun s => !s.isEmpty

end Environment

namespace Config

/-- The data in the configuration file at a path. -/
def readData (files : Files) (p : Path) : Except ConfigStop Data.Value :=
  match files.read p with
  | .error .impossibleName => .error (.broken .impossiblePath)
  | .error e => .error (.refused (.unreadable p e))
  | .ok bytes =>
    match Files.decode bytes with
    | .error e => .error (.broken (.decoding e))
    | .ok text =>
      match Yaml.read text with
      | .ok v => .ok (if v.isVoid then .record [] else v)
      | .error .malformed => .error (.refused (.malformed p))
      | .error e => .error (.broken (.data e))

/-- The configuration after the file at a path has been taken over, and what was wrong with the
file. -/
def updateFromFile (c : Config) (files : Files) (p : Path) : Config × Option ConfigStop :=
  match readData files p with
  | .ok data => { c with path := some p }.update data
  | .error e => (c, some e)

/-- The path of the configuration file: the one that is asked for, or else that of the
environment. -/
def filePath (env : Environment) (asked : Option Path) : Except ConfigStop (Option Path) :=
  match asked, Environment.given env.config with
  | some p, _ => .ok (some p)
  | none, none => .ok none
  | none, some text =>
    (some <$> (Path.ofText text).expandHome env.home).mapError fun e => .broken (.home e)

/-- The configuration with what the environment sets. -/
def withEnvironment (c : Config) (env : Environment) : Except ConfigStop Config := do
  let c := match Environment.given env.proposalFormat with
    | some s => { c with proposalFormat := s }
    | none => c
  let c ← match Environment.given env.outputFormat with
    | some s =>
      match OutputFormat.ofName? s with
      | some f => pure { c with outputFormat := f.name }
      | none => throw (.refused (.unknownFormat s))
    | none => pure c
  return match Environment.given env.helpUrl with
    | some s => { c with helpUrl := s }
    | none => c

/-- The configuration of the file that is asked for or that the environment names, and of the
environment. -/
def load (env : Environment) (files : Files) (asked : Option Path) : Except ConfigStop Config := do
  let start : Config := {}
  let c ← match ← filePath env asked with
    | none => pure start
    | some p =>
      match start.updateFromFile files p with
      | (c, none) => pure c
      | (_, some e) => throw e
  c.withEnvironment env

end Config

end ProposalCheck
