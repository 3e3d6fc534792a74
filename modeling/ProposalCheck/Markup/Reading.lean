import ProposalCheck.Markup.Block.Reading
import ProposalCheck.Markup.Inline.Addresses
import ProposalCheck.Markup.Inline.Reading

/-!
# Reading Markdown

`Markup.read` reads a Markdown text into a tree: blocks first, then the texts inside them, then the
footnotes, which move to the end, and at last the bare addresses, which become links.
-/

namespace ProposalCheck.Markup

/-- Why a text has no tree. -/
inductive MarkupError where
  /-- Footnotes are nested so that blocks close which have not been opened. -/
  | unbalanced
deriving DecidableEq, Repr, Inhabited

/-- The wording of an error. -/
def MarkupError.message : MarkupError → String
  | unbalanced => "Invalid token nesting"

/-- The characters of a text with every line ending made a line feed and no null characters. -/
def normalizeText : List Char → List Char
  | [] => []
  | '\r' :: '\n' :: r => '\n' :: normalizeText r
  | c :: r => (if c == '\r' then '\n' else if c == '\x00' then '\uFFFD' else c) :: normalizeText r

/-- Reads the texts inside blocks, with the footnotes found on the way. -/
def readProse (references : List (String × Reference)) :
    List (Mark String) → Notes → List (Mark Prose) × Notes
  | [], notes => ([], notes)
  | m :: ms, notes =>
    let (m, notes) : Mark Prose × Notes :=
      match m with
      | .event e => (.event e, notes)
      | .prose content lines =>
        let (events, notes) := Inline.readText references content.toList notes
        (.prose { content, events } lines, notes)
      | .noteOpening label => (.noteOpening label, notes)
      | .noteClosing => (.noteClosing, notes)
    let (ms, notes) := readProse references ms notes
    (m :: ms, notes)

/-- The nodes of a text. -/
def Prose.nodes? (p : Prose) : Option (List Node) :=
  Event.toNodes? (Inline.joinSpecials (Inline.replaceAddresses p.content p.events).toList)

/-- The event of a mark, with the nodes of a text below it. The bounds of footnotes give none. -/
def Mark.event? : Mark Prose → Option (Option Event)
  | .event e => some (some e)
  | .prose p lines => p.nodes?.map fun ns => some (.leaf .inline lines ns)
  | .noteOpening _ => some none
  | .noteClosing => some none

/-- Reads a Markdown text. -/
def read (source : String) : Except MarkupError Node := do
  let blocks := Block.readBlocks (normalizeText source.toList).toArray
  let (marks, notes) := readProse blocks.references blocks.marks.toList (.ofLabels blocks.notes)
  match (notes.place marks).mapM Mark.event? with
  | none => throw .unbalanced
  | some events =>
    match Event.toNodes? events.reduceOption with
    | none => throw .unbalanced
    | some nodes => return .node .root none nodes

end ProposalCheck.Markup
