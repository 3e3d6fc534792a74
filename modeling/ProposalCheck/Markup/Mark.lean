import ProposalCheck.Markup.Event

/-!
# Marks

Between the lines of a text and its tree stands a flat sequence of marks: events, the texts inside
paragraphs, headings and cells, and the bounds of footnotes, which are shown at the end of the
document and not where they are defined. The texts are characters at first and events later.
-/

namespace ProposalCheck.Markup

/-- A step of the flat form of a document whose texts have the type `α`. -/
inductive Mark (α : Type) where
  | event (e : Event)
  | prose (content : α) (lines : Option LineSpan)
  /-- The start of the blocks of a footnote. -/
  | noteOpening (label : String)
  | noteClosing
deriving Repr, Inhabited

namespace Mark

/-- The opening of a construct that covers some lines. -/
def opening {α : Type} (c : Construct) (lines : Option LineSpan) : Mark α :=
  .event (.opening c lines)

/-- The end of a construct. -/
def closing {α : Type} (c : Construct) : Mark α :=
  .event (.closing c)

/-- A construct without children. -/
def leaf {α : Type} (c : Construct) (lines : Option LineSpan) : Mark α :=
  .event (.leaf c lines [])

end Mark

end ProposalCheck.Markup
