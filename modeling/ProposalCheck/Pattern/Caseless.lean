import ProposalCheck.Text.Case

/-!
# Matching without regard to case

Two characters agree without regard to case when their lower cases do, or when their lower cases
belong to one of the few groups of letters that have a common upper case only.
-/

namespace ProposalCheck.Pattern

/-- Lower-case letters and the other lower-case letters that match them without regard to case. -/
def caselessPartners : List (Nat × List Nat) := [
  (0x69, [0x131]), (0x73, [0x17F]), (0xB5, [0x3BC]), (0x131, [0x69]), (0x17F, [0x73]),
  (0x345, [0x3B9, 0x1FBE]), (0x390, [0x1FD3]), (0x3B0, [0x1FE3]), (0x3B2, [0x3D0]),
  (0x3B5, [0x3F5]), (0x3B8, [0x3D1]), (0x3B9, [0x345, 0x1FBE]), (0x3BA, [0x3F0]),
  (0x3BC, [0xB5]), (0x3C0, [0x3D6]), (0x3C1, [0x3F1]), (0x3C2, [0x3C3]), (0x3C3, [0x3C2]),
  (0x3C6, [0x3D5]), (0x3D0, [0x3B2]), (0x3D1, [0x3B8]), (0x3D5, [0x3C6]), (0x3D6, [0x3C0]),
  (0x3F0, [0x3BA]), (0x3F1, [0x3C1]), (0x3F5, [0x3B5]), (0x432, [0x1C80]), (0x434, [0x1C81]),
  (0x43E, [0x1C82]), (0x441, [0x1C83]), (0x442, [0x1C84, 0x1C85]), (0x44A, [0x1C86]),
  (0x463, [0x1C87]), (0x1C80, [0x432]), (0x1C81, [0x434]), (0x1C82, [0x43E]), (0x1C83, [0x441]),
  (0x1C84, [0x442, 0x1C85]), (0x1C85, [0x442, 0x1C84]), (0x1C86, [0x44A]), (0x1C87, [0x463]),
  (0x1C88, [0xA64B]), (0x1E61, [0x1E9B]), (0x1E9B, [0x1E61]), (0x1FBE, [0x345, 0x3B9]),
  (0x1FD3, [0x390]), (0x1FE3, [0x3B0]), (0xA64B, [0x1C88]), (0xFB05, [0xFB06]),
  (0xFB06, [0xFB05])]

/-- The lower-case letters that match a lower-case letter, itself first. -/
def caselessGroup (lower : Char) : List Char :=
  match caselessPartners.find? (·.1 == lower.toNat) with
  | some p => lower :: p.2.map Char.ofNat
  | none => [lower]

/-- Whether a character matches a literal without regard to case. -/
def sameIgnoringCase (literal c : Char) : Bool :=
  if Text.isCased literal then
    (caselessGroup (Text.toLower literal)).contains (Text.toLower c)
  else c == literal

/-- The code points of the characters whose lower case matches a lower-case letter. -/
def caselessSources (lower : Char) : List Nat :=
  (caselessGroup lower).flatMap fun c =>
    let others := Text.CaseRun.sources Text.lowerRuns c.toNat
    if Text.toLower c == c then c.toNat :: others else others

end ProposalCheck.Pattern
