import ProposalCheck.Lint.Rule
import ProposalCheck.Pattern.Matching
import ProposalCheck.Rule.Flow

/-!
# The status of linked proposals

Links in the body may lead to other proposals. Those have to be at least as far on their way as the
proposal itself.
-/

namespace ProposalCheck.Rule

namespace LinkStatus

/-- How a link to a proposal ends, unless the rule is set up with another pattern. -/
def proposalFile : String := "(?i)(?:eip|erc)-([0-9]+)\\.md$"

/-- What the rule is set up with: the field of the status, the flow, and the pattern of the targets
that are proposals, whose first group is the number. -/
structure Setup where
  status : String
  flow : Flow
  pattern : String := proposalFile
deriving Repr, Inhabited

/-- A link in a body. -/
structure Link where
  place : Markup.Place
  target : String
deriving Inhabited

/-- A link to the file of a proposal. -/
structure ProposalLink extends Link where
  fileName : String
deriving Inhabited

/-- The links of a tree in order. -/
def links (body : Markup.Node) : List Link :=
  body.places.filterMap fun p =>
    match p.construct with
    | .link target _ => some { place := p, target }
    | _ => none

/-- The number that the first group of a match stands for. -/
def number (target : List Char) (m : Pattern.Match) (groups : Nat) : Except Crash Int :=
  if groups == 0 then .error .noGroup
  else match m.group? 1 with
    | none => .error .emptyGroup
    | some (start, stop) =>
      (Text.Numeral.read (String.ofList ((target.drop start).take (stop - start)))).mapError .numeral

/-- A link as one to a proposal, if its target matches. -/
def toProposal? (pattern : Pattern) (l : Link) : Except Crash (Option ProposalLink) :=
  let target := l.target.toList
  match pattern.find? target.toArray with
  | none => .ok none
  | some m => do
    if pattern.isGarbled m then throw .garbledGroup
    let n ← number target m pattern.groups
    return some { l with fileName := "eip-" ++ toString n ++ ".md" }

/-- The links to proposals in a document. -/
def proposalLinks (s : Setup) (d : Document) : Except Crash (List ProposalLink) := do
  let pattern ← (Pattern.read s.pattern).mapError .pattern
  return (← (links d.body).mapM (toProposal? pattern)).filterMap id

/-- The documents that links ask for. -/
def discover (s : Setup) (d : Document) : Discovery :=
  match proposalLinks s d with
  | .ok ls => { references := ls.map fun l => d.pathReference l.fileName }
  | .error e => { stop := some (.crash e) }

/-- The line of a link: the first one of its block on which its target occurs, or else the first
one. -/
def line (d : Document) (l : Link) : Except LineError Nat := do
  let ls := Text.lines (← d.nodeText l.place)
  let offset := if l.target.isEmpty then none else ls.findIdx? (Text.occursIn l.target)
  return d.nodeLine l.place + offset.getD 0

/-- The excerpt that shows a link. -/
def snippet (c : Context) (l : Link) : Except LineError Snippet := do
  let n ← line c.document l
  return { source := ← c.document.line n, lineStart := n, origin := c.origin }

/-- The message about a linked proposal that is not far enough, with the tier up to which the
proposal itself may be. -/
def unstable (s : Setup) (slug : String) (c : Context) (fileName : String) (snippet : Snippet)
    (ceiling : Nat) : Message :=
  let m := ((c.level.message
    ("proposal \x60" ++ fileName ++ "\x60 is not stable enough for a \x60" ++ s.status ++ "\x60 of \x60"
      ++ c.preamble.currentStatus s.status ++ "\x60")).withId slug).addSnippet snippet
  let choices := s.flow.choices ceiling
  if choices.isEmpty then m
  else m.addFooter (Level.help.message
    ("because of this link, this proposal's \x60" ++ s.status ++ "\x60 must be one of: \x60"
      ++ choices ++ "\x60"))

/-- What is said about one link, and the lowest tier of a linked proposal so far. -/
def judge (s : Setup) (slug : String) (c : Context) (lowest : Option Nat) (l : ProposalLink) :
    Findings × Option Nat :=
  match snippet c l.toLink with
  | .error e => (.crash (.line e), lowest)
  | .ok snippet =>
    match c.atPath l.fileName with
    | .error (.failed e) =>
      (.report (((c.level.message ("unable to read file \x60" ++ l.fileName ++ "\x60: "
        ++ e.message)).withId slug).addSnippet snippet), lowest)
    | .error e => (.stopped (.ofLookup e), lowest)
    | .ok other =>
      let tier := s.flow.tierOf s.status other.preamble
      let least := match lowest with
        | some n => Nat.min n tier
        | none => tier
      (if tier < s.flow.tierOf s.status c.preamble then
          .report (unstable s slug c l.fileName snippet least)
        else .none, some least)

/-- What is said about links in order. -/
def judgeAll (s : Setup) (slug : String) (c : Context) : Option Nat → List ProposalLink → Findings
  | _, [] => .none
  | lowest, l :: ls =>
    let (findings, lowest) := judge s slug c lowest l
    findings ++ judgeAll s slug c lowest ls

/-- What is said about a document. -/
def check (s : Setup) (slug : String) (c : Context) : Findings :=
  .ofExcept ((proposalLinks s c.document).mapError .crash) (judgeAll s slug c none)

/-- The rule with what it was set up with. -/
def Setup.summary (s : Setup) : String :=
  "LinkStatus(status=" ++ Text.quoted s.status ++ ", flow=" ++ s.flow.summary ++ ", pattern="
    ++ Text.quoted s.pattern ++ ")"

end LinkStatus

/-- Linked proposals are at least as far on as the one that links to them. -/
def linkStatus (s : LinkStatus.Setup) : Rule where
  description := "Linked proposals must be at least as advanced as the linking one."
  summary := s.summary
  discover := LinkStatus.discover s
  check := LinkStatus.check s

end ProposalCheck.Rule
