import ProposalCheck.Lint.Rule
import ProposalCheck.Markup.Walk
import ProposalCheck.Pattern.Matching

/-!
# Patterns that prose must not match

The prose of a body is the text that a reader sees as text: not code and not HTML, but titles of
links and images and labels of footnotes as well. Every piece of prose that a pattern matches is
reported.
-/

namespace ProposalCheck.Rule

namespace Prose

/-- What the rule is set up with: the pattern, and what is said where it matches. -/
structure Setup where
  pattern : String
  message : String
deriving Repr, Inhabited

/-- The prose that a construct holds itself; empty for code, HTML and what only holds
other nodes. -/
def prose : Markup.Construct → String
  | .text s => s
  | .link _ title => title.getD ""
  | .image _ title _ => title.getD ""
  | .footnote label => label.getD ""
  | .footnoteRef label => label.getD ""
  | _ => ""

/-- The first match in the prose of a construct, if it has any prose. -/
def offence? (p : Pattern) (c : Markup.Construct) : Option Pattern.Match :=
  let s := prose c
  if s.isEmpty then none else p.find? s.toList.toArray

/-- What is said about a node that matches. -/
def report (s : Setup) (slug : String) (c : Context) (p : Markup.Place) : Findings :=
  .ofExcept ((c.document.excerpt p c.level none).mapError fun e => .crash (.line e)) fun snippet =>
    .report ((((c.level.message s.message).withId slug).addSnippet snippet).addFooter
      (Level.info.message ("the pattern in question: \x60" ++ s.pattern ++ "\x60")))

/-- What is said about a node. -/
def judge (s : Setup) (slug : String) (c : Context) (pattern : Pattern) (p : Markup.Place) : Findings :=
  match offence? pattern p.construct with
  | none => .none
  | some m => if pattern.isGarbled m then .crash .garbledGroup else report s slug c p

/-- Why a pattern stops the rule. A text that is no pattern is a mistake in the setup. -/
def stopOf (pattern : String) : PatternError → Stop
  | .malformed reason text position =>
    .fault (.misconfigured ("invalid pattern \x60" ++ pattern ++ "\x60: "
      ++ (PatternError.malformed reason text position).message))
  | e => .crash (.pattern e)

/-- The categories below whose nodes there is no prose. -/
def skipped : List String :=
  ["code", "code_block", "html_inline", "html_block"]

/-- The categories whose nodes may hold prose. -/
def judged : List String :=
  ["text", "link", "image", "footnote_definition", "footnote_reference"]

/-- What the rule does on the way through a document. -/
def callbacks (s : Setup) (slug : String) (c : Context) (pattern : Pattern) :
    Markup.Callbacks Work where
  enter category p := do
    if category ∈ skipped then
      return some .past
    if category ∈ judged then
      (judge s slug c pattern p.toPlace).tell
    return some .below
  depart _ _ := pure ()

/-- What is said about a document. -/
def check (s : Setup) (slug : String) (c : Context) : Findings :=
  .ofExcept ((Pattern.read s.pattern).mapError (stopOf s.pattern)) fun pattern =>
    .ofWork (c.document.body.walk (callbacks s slug c pattern).visitor)

/-- The rule with what it was set up with. -/
def Setup.summary (s : Setup) : String :=
  "Regex(mode=<Mode.EXCLUDES: 'excludes'>, pattern=" ++ Text.quoted s.pattern ++ ", message="
    ++ Text.quoted s.message ++ ")"

end Prose

/-- No prose matches the pattern. -/
def prose (s : Prose.Setup) : Rule where
  description := "Prose in the body must not match a pattern (code and HTML are skipped)."
  summary := s.summary
  discover _ := {}
  check := Prose.check s

end ProposalCheck.Rule
