import ProposalCheck.Pattern.Reader
import ProposalCheck.Text.Identifier

/-!
# Groups of options

`(?i)` turns options on for the whole pattern, `(?i-m:…)` turns some on and others off inside of a
group.
-/

namespace ProposalCheck

namespace Pattern

open Read

/-- The letters of options after one of them up to a closing character, which is given too. -/
def enabledOptions : Nat → Char → List Char → Read (List Char × Char)
  | 0, c, seen => return (seen, c)
  | fuel + 1, c, seen => do
    if c == 'L' then fail "bad inline flags: cannot use 'L' flag with a str pattern" 0
    let seen := seen ++ [c]
    if (c == 'a' && seen.contains 'u') || (c == 'u' && seen.contains 'a') then
      fail "bad inline flags: flags 'a', 'u' and 'L' are incompatible" 0
    match ← take with
    | none => fail "missing -, : or )" 0
    | some t =>
      match t with
      | .plain d =>
        if d == ')' || d == '-' || d == ':' then return (seen, d)
        else if isOption d then enabledOptions fuel d seen
        else
          fail (if Text.isLetter d then "unknown flag"
            else "missing -, : or )") 1
      | .escape _ => fail "missing -, : or )" 2

/-- The letters of options that are turned off, up to the colon. -/
def disabledOptions : Nat → Char → List Char → Read (List Char)
  | 0, _, seen => return seen
  | fuel + 1, c, seen => do
    if c == 'a' || c == 'u' || c == 'L' then
      fail "bad inline flags: cannot turn off flags 'a', 'u' and 'L'" 0
    let seen := seen ++ [c]
    match ← take with
    | none => fail "missing :" 0
    | some t =>
      match t with
      | .plain d =>
        if d == ':' then return seen
        else if isOption d then disabledOptions fuel d seen
        else
          fail (if Text.isLetter d then "unknown flag"
            else "missing :") 1
      | .escape _ => fail "missing :" 2

/-- What a group of options asks for: options for the whole pattern, or ones to turn on and off in
the group. -/
inductive OptionGroup where
  | forAll (on : List Char)
  | forGroup (on off : List Char)

/-- Reads the options of a group that starts with a character. -/
def optionGroup (c : Char) : Read OptionGroup := do
  let (on, close) ← if c == '-' then pure ([], '-') else enabledOptions (← fuel) c []
  if close == ')' then return .forAll on
  if on.contains 't' then fail "bad inline flags: cannot turn on global flag" 1
  let off ← if close == '-' then do
      match ← take with
      | none => fail "missing flag" 0
      | some t =>
        match t with
        | .plain d =>
          if isOption d then disabledOptions (← fuel) d []
          else
            fail (if Text.isLetter d then "unknown flag"
              else "missing flag") 1
        | .escape _ => fail "missing flag" 2
    else pure []
  if off.contains 't' then fail "bad inline flags: cannot turn off global flag" 1
  if on.any off.contains then fail "bad inline flags: flag turned on and off" 1
  return .forGroup on off

end Pattern

end ProposalCheck
