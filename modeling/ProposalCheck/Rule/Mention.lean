import ProposalCheck.Lint.Rule
import ProposalCheck.Pattern.Matching

/-!
# Mentions of proposals in a field

A field may mention other proposals by a prefix and a number. The prefix has to be that of the
mentioned proposal's category.
-/

namespace ProposalCheck.Rule

namespace Mention

/-- What the rule is set up with: the field, and what stands before and after a number in the name
of a proposal's file. -/
structure Setup where
  field : String
  before : String := "eip-"
  after : String := ".md"
deriving Repr, Inhabited

/-- How a proposal is mentioned. -/
def pattern : Pattern :=
  Pattern.ofText "(?i)\\b(?:eip|erc)-([0-9]+)\\b"

/-- The mentions in a value. -/
def mentions (value : String) : List Pattern.Match :=
  pattern.findAll value.toList.toArray

/-- The part of a text from one position to another. -/
def slice (cs : List Char) (start stop : Nat) : String :=
  String.ofList ((cs.drop start).take (stop - start))

/-- The number of a mention. -/
def number (value : String) (m : Pattern.Match) : Except Text.NumeralError Int :=
  match m.group? 1 with
  | some (start, stop) => Text.Numeral.read (slice value.toList start stop)
  | none => Text.Numeral.read ""

/-- The name of the file of a proposal. -/
def Setup.fileName (s : Setup) (number : Int) : String :=
  s.before ++ toString number ++ s.after

/-- The documents that mentions ask for, up to the first one whose number cannot be read. -/
def discoverAll (s : Setup) (d : Document) (value : String) : List Pattern.Match → Discovery
  | [] => {}
  | m :: ms =>
    match number value m with
    | .error e => { stop := some (.crash (.numeral e)) }
    | .ok n =>
      let rest := discoverAll s d value ms
      { rest with references := d.pathReference (s.fileName n) :: rest.references }

/-- The documents that a field asks for. -/
def discover (s : Setup) (d : Document) : Discovery :=
  match d.preamble.byName? s.field with
  | none => {}
  | some f => discoverAll s d f.value (mentions f.value)

/-- The category of a document, if its preamble names one. -/
def category? (p : Preamble) : Option String :=
  (p.byName? "category").map fun f => Text.trim f.value

/-- The prefix for proposals of a category. -/
def prefixFor (category : Option String) : String :=
  if category == some "ERC" then "ERC" else "EIP"

/-- What is wrong with the text of a mention of a document, if anything. -/
def objection? (mention : String) (p : Preamble) : Option String :=
  let category := category? p
  let wanted := prefixFor category
  if Text.startsWith wanted.toList mention.toList then none
  else
    let described := match category with
      | none => "without a \x60category\x60"
      | some c => "with a \x60category\x60 of \x60" ++ c ++ "\x60"
    some ("references to proposals " ++ described ++ " must use a prefix of \x60" ++ wanted ++ "\x60")

/-- What is said about one mention. -/
def judge (s : Setup) (slug : String) (c : Context) (f : Field) (m : Pattern.Match) : Findings :=
  let report (title : String) : Findings :=
    let mark := c.level.spanChars f.source (f.name.length + 1 + m.start : Nat) (m.stop - m.start : Nat)
    .report (((c.level.message title).withId slug).addSnippet
      ((c.fieldSnippet f).annotate (mark.withLabel "referenced here")))
  .ofExcept ((number f.value m).mapError fun e => .crash (.numeral e)) fun n =>
    let name := s.fileName n
    match c.atPath name with
    | .error (.failed e) => report ("unable to read file \x60" ++ name ++ "\x60: " ++ e.message)
    | .error e => .stopped (.ofLookup e)
    | .ok other =>
      match objection? (slice f.value.toList m.start m.stop) other.preamble with
      | some title => report title
      | none => .none

/-- What is said about a document. -/
def check (s : Setup) (slug : String) (c : Context) : Findings :=
  match c.preamble.byName? s.field with
  | none => .none
  | some f => .concat ((mentions f.value).map (judge s slug c f))

/-- The rule with what it was set up with. -/
def Setup.summary (s : Setup) : String :=
  "ProposalRef(name=" ++ Text.quoted s.field ++ ", prefix=" ++ Text.quoted s.before
    ++ ", suffix=" ++ Text.quoted s.after ++ ")"

end Mention

/-- Proposals are mentioned under the prefix of their category. -/
def mention (s : Mention.Setup) : Rule where
  description := "Proposal references in a header must use the target's category prefix."
  summary := s.summary
  discover := Mention.discover s
  check := Mention.check s

end ProposalCheck.Rule
