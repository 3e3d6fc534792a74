import ProposalCheck.Markup.Mark

/-!
# Footnotes

Footnotes are numbered in the order in which the text first refers to them. A footnote is either
defined by blocks of its own, under a label, or written in the place of the reference. `Notes.place`
takes the blocks of footnotes out of the flow of the document and puts the footnotes that are
referred to at its end.
-/

namespace ProposalCheck.Markup

/-- A text with the events inside it. -/
structure Prose where
  content : String
  events : Array Event
deriving Repr, Inhabited

/-- A footnote that the text refers to. -/
inductive Note where
  /-- A footnote under a label, and how often it is referred to. -/
  | labelled (label : String) (count : Nat)
  /-- A footnote written in the place of the reference. -/
  | written (prose : Prose)
deriving Repr, Inhabited

/-- The footnotes of a document while its texts are read. -/
structure Notes where
  /-- The labels that are defined, with the number of the footnote once one refers to it. -/
  labels : List (String × Option Nat) := []
  /-- The footnotes referred to, by number. -/
  list : Array Note := #[]
deriving Repr, Inhabited

namespace Notes

/-- The footnotes of which only the labels are known. -/
def ofLabels (labels : List String) : Notes :=
  { labels := labels.map fun l => (l, none) }

/-- Counts a reference to a label. -/
def refer (n : Notes) (label : String) : Notes :=
  match (n.labels.find? (·.1 == label)).bind (·.2) with
  | none =>
    { n with
      labels := n.labels.map fun l => if l.1 == label then (label, some n.list.size) else l
      list := n.list.push (.labelled label 1) }
  | some i =>
    match n.list[i]? with
    | some (.labelled l count) => { n with list := n.list.setIfInBounds i (.labelled l (count + 1)) }
    | _ => n

/-- Takes the next number for a footnote that is written in its place, before its text is read: the
footnotes inside the text come after it. -/
def reserve (n : Notes) : Notes :=
  { n with list := n.list.push default }

/-- Puts the text of a footnote under its number. -/
def write (n : Notes) (i : Nat) (prose : Prose) : Notes :=
  { n with list := n.list.setIfInBounds i (.written prose) }

/-! ## Placing footnotes -/

/-- The marks of footnotes by label, taken out of the flow. -/
structure Flow where
  marks : List (Mark Prose) := []
  blocks : List (String × List (Mark Prose)) := []

/-- Divides the marks into those of the flow and those of footnotes. The marks of a footnote are
those between its own opening and the first closing after it. -/
def divide : List (Mark Prose) → (inside : Bool) → (label : String) → (current : List (Mark Prose)) →
    Flow
  | [], _, _, _ => {}
  | .noteOpening label :: ms, _, _, _ => divide ms true label []
  | .noteClosing :: ms, _, label, current =>
    let rest := divide ms false label current
    { rest with blocks := (label, current) :: rest.blocks }
  | m :: ms, true, label, current => divide ms true label (current ++ [m])
  | m :: ms, false, label, current =>
    let rest := divide ms false label current
    { rest with marks := m :: rest.marks }

/-- The marks of a footnote's blocks. Of two definitions of a label the last one counts. -/
def blocksOf (flow : Flow) (label : String) : List (Mark Prose) :=
  match flow.blocks.reverse.find? (·.1 == label) with
  | some b => b.2
  | none => []

/-- Whether a mark closes a paragraph. -/
def closesParagraph : Mark Prose → Bool
  | .event (.closing .paragraph) => true
  | _ => false

/-- The marks of a footnote: its blocks, and for each reference an anchor in the last paragraph. -/
def noteMarks (flow : Flow) (note : Note) : List (Mark Prose) :=
  let (label, count, blocks) : Option String × Nat × List (Mark Prose) :=
    match note with
    | .labelled label count => (some label, count, blocksOf flow label)
    | .written prose =>
      (none, 1, [.opening .paragraph none, .prose prose none, .closing .paragraph])
  let (body, last) := match blocks.getLast? with
    | some m => if closesParagraph m then (blocks.dropLast, [m]) else (blocks, [])
    | none => ([], [])
  let anchors := List.replicate (Nat.max count 1) (Mark.leaf (.footnoteAnchor label) none)
  .opening (.footnote label) none :: body ++ anchors ++ last ++ [.closing (.footnote label)]

/-- The marks of a document with the footnotes at its end. -/
def place (n : Notes) (marks : List (Mark Prose)) : List (Mark Prose) :=
  let flow := divide marks false "" []
  if n.list.isEmpty then flow.marks
  else
    flow.marks ++ .opening .footnoteBlock none :: n.list.toList.flatMap (noteMarks flow)
      ++ [.closing .footnoteBlock]

end Notes

end ProposalCheck.Markup
