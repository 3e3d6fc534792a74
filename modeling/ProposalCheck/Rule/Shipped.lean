import ProposalCheck.Rule.Duplicates
import ProposalCheck.Rule.LinkStatus
import ProposalCheck.Rule.Mention
import ProposalCheck.Rule.Prose
import ProposalCheck.Rule.Required
import ProposalCheck.Rule.RequiredStatus
import ProposalCheck.Rule.Spacing

/-!
# The shipped rules

The rules that come with the checker, with the slugs and the setups under which they are on unless
something else is asked for.
-/

namespace ProposalCheck

/-- A rule that comes with the checker. -/
inductive Shipped where
  | duplicates
  | spacing
  | required (names : List String)
  | requiredStatus (s : Rule.RequiredStatus.Setup)
  | mention (s : Rule.Mention.Setup)
  | prose (s : Rule.Prose.Setup)
  | linkStatus (s : Rule.LinkStatus.Setup)
deriving Repr, Inhabited

namespace Shipped

/-- The rule itself. -/
def toRule : Shipped → Rule
  | duplicates => .duplicates
  | spacing => .spacing
  | required names => .required names
  | requiredStatus s => .requiredStatus s
  | mention s => .mention s
  | prose s => .prose s
  | linkStatus s => .linkStatus s

/-- The way of a proposal from a draft to its end. -/
def statusFlow : Flow :=
  [["Draft", "Stagnant"], ["Review"], ["Last Call"], ["Final", "Withdrawn", "Living"]]

/-- The fields that every preamble has. -/
def requiredFields : List String :=
  ["eip", "title", "description", "author", "discussions-to", "status", "type", "created"]

/-- How a proposal has to be referred to in prose, said of the wrong ways. -/
def dashMessage (abbreviation : String) : String :=
  "proposals must be referenced with the form \x60" ++ abbreviation ++ "-N\x60 (not \x60"
    ++ abbreviation ++ "N\x60 or \x60" ++ abbreviation ++ " N\x60)"

/-- The rules that are on from the start. -/
def standard : List (String × Shipped) := [
  ("preamble-no-dup", duplicates),
  ("preamble-trim", spacing),
  ("preamble-req", required requiredFields),
  ("preamble-requires-status",
    requiredStatus { requires := "requires", status := "status", flow := statusFlow }),
  ("preamble-refs-title", mention { field := "title" }),
  ("preamble-refs-description", mention { field := "description" }),
  ("markdown-re-eip-dash",
    prose { pattern := "(?i)eip[\\s]*[0-9]+", message := dashMessage "EIP" }),
  ("markdown-re-erc-dash",
    prose { pattern := "(?i)erc[\\s]*[0-9]+", message := dashMessage "ERC" }),
  ("markdown-link-status", linkStatus { status := "status", flow := statusFlow })]

/-- The slugs of the rules that are on from the start. -/
def standardSlugs : List String :=
  standard.map (·.1)

/-- The slugs of the rules that are on from the start, in order, with what each rule asks for. -/
def descriptions : List (String × String) :=
  (standard.map fun e => (e.1, e.2.toRule.description)).mergeSort fun a b => Text.le a.1 b.1

end Shipped

end ProposalCheck
