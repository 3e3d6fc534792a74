import ProposalCheck.CommandLine.Command

/-!
# The program

`main` carries out the command line. The command itself only asks what is at certain paths; here the
answers are gathered from the disk, until nothing more is asked, and what the command writes is
printed.
-/

namespace ProposalCheck.Program

/-- What has been found at paths. -/
abbrev Findings := List (Path × Except FileError Entry)

/-- The files that are known. -/
def known (found : Findings) : Files := fun p =>
  match found.find? (·.1 == p) with
  | some e => e.2
  | none => .error .missing

/-- What an error of the disk means. -/
def fileError : IO.Error → FileError
  | .permissionDenied _ _ _ => .denied
  | .inappropriateType _ _ _ => .notDirectory
  | .resourceExhausted _ _ _ => .nameTooLong
  | _ => .missing

/-- Looks at a path on the disk. -/
def look (p : Path) : IO (Except FileError Entry) := do
  if p.text.toList.contains '\x00' then return .error .impossibleName
  let place := (← IO.currentDir) / p.text
  try
    if ← place.isDir then
      return .ok (.directory ((← place.readDir).toList.map (·.fileName)))
    return .ok (.file (← IO.FS.readBinFile place).toList)
  catch e => return .error (fileError e)

/-- Looks at what a command line asks for, until all of it is known. -/
partial def gather (env : Environment) (a : CommandLine.Arguments) (found : Findings) : IO Findings := do
  let asked := (CommandLine.Command.looksAt env (known found) a).eraseDups
  let new := asked.filter fun p => !found.any (·.1 == p)
  if new.isEmpty then return found
  let more ← new.mapM fun p => return (p, ← look p)
  gather env a (found ++ more)

/-- What the environment sets. -/
def environment : IO Environment := do
  let home := (← IO.getEnv "HOME").map Path.ofText
  return {
    config := ← IO.getEnv "PROPOSAL_LINT_CONFIG"
    proposalFormat := ← IO.getEnv "PROPOSAL_LINT_PROPOSAL_FORMAT"
    outputFormat := ← IO.getEnv "PROPOSAL_LINT_FORMAT"
    helpUrl := ← IO.getEnv "PROPOSAL_LINT_HELP_URL"
    home := fun word => if word == "~" then home else none }

/-- Carries out a command line. The result is the exit status. -/
def run (words : List String) : IO UInt32 := do
  let env ← environment
  let found ← match CommandLine.Arguments.read words with
    | .ok a => if a.listRules then pure [] else gather env a []
    | .error _ => pure []
  let t := CommandLine.Command.run env (known found) words
  (← IO.getStdout).putStr t.out
  (← IO.getStderr).putStr t.err
  match t.ending with
  | .ok status => return status.toUInt32
  | .error b => throw (IO.userError b.message)

end ProposalCheck.Program

/-- Carries out a command line. -/
def main (words : List String) : IO UInt32 :=
  ProposalCheck.Program.run words
