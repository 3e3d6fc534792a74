import ProposalCheck.Config.Loading

/-!
# Switches of the command line

A `Switch` is one of the words with a dash that the command line knows. `Switch.names` has all ways
to write them. The usage and the help text tell about them.
-/

namespace ProposalCheck.CommandLine

/-- What a switch on the command line asks for. -/
inductive Switch where
  | help
  | version
  | format
  | listRules
  | noStandardRules
  | severity (s : Severity)
  | config
  | verbose
deriving DecidableEq, Repr, Inhabited

namespace Switch

/-- The ways to write the switches, in the order in which they are tried. -/
def names : List (String × Switch) := [
  ("-h", help), ("--help", help), ("--version", version), ("--format", format),
  ("--list-lints", listRules), ("--no-default-lints", noStandardRules),
  ("-D", severity .deny), ("--deny", severity .deny), ("-W", severity .warn), ("--warn", severity .warn),
  ("-A", severity .allow), ("--allow", severity .allow), ("-c", config), ("--config", config),
  ("-v", verbose), ("--verbose", verbose)]

/-- The switch that is written in a way. -/
def ofName? (name : String) : Option Switch :=
  (names.find? (·.1 == name)).map (·.2)

/-- Whether a value belongs to a switch. -/
def takesValue : Switch → Bool
  | format => true
  | severity _ => true
  | config => true
  | _ => false

/-- All ways to write a switch. -/
def shown (s : Switch) : String :=
  "/".intercalate ((names.filter (·.2 == s)).map (·.1))

end Switch

/-! ## Texts for the user -/

/-- The name of the program. -/
def programName : String := "proposal-lint"

/-- The version of the program. -/
def version : String := "0.1.0"

/-- How the program is called. -/
def usage : String := Text.unlines [
  "usage: proposal-lint [-h] [--version] [--format \x7btext,json\x7d] [--list-lints]",
  "                     [--no-default-lints] [-D SLUG] [-W SLUG] [-A SLUG]",
  "                     [-c CONFIG] [-v]",
  "                     [sources ...]",
  ""]

/-- What the program does, with all switches. -/
def helpText : String := usage ++ Text.unlines [
  "",
  "Validate proposal documents (preamble + Markdown body)",
  "",
  "positional arguments:",
  "  sources               Files to lint; directories are expanded to their *.md",
  "                        files",
  "",
  "options:",
  "  -h, --help            show this help message and exit",
  "  --version             show program's version number and exit",
  "  --format \x7btext,json\x7d  Output format (default: text, or PROPOSAL_LINT_FORMAT)",
  "  --list-lints          List available lints and exit",
  "  --no-default-lints    Start with no lints; enable some with -D or -W",
  "  -D SLUG, --deny SLUG  Report findings of this lint as errors",
  "  -W SLUG, --warn SLUG  Report findings of this lint as warnings",
  "  -A SLUG, --allow SLUG",
  "                        Disable this lint",
  "  -c CONFIG, --config CONFIG",
  "                        YAML config file (default: PROPOSAL_LINT_CONFIG)",
  "  -v, --verbose         Log engine progress to stderr",
  ""]

/-- The shipped rules with what they ask for, one on a line. -/
def rulesText : String :=
  String.join (Shipped.descriptions.map fun e => e.1 ++ ": " ++ e.2 ++ "\n")

end ProposalCheck.CommandLine
