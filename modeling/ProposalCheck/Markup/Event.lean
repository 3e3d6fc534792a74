import ProposalCheck.Markup.Tree

/-!
# Events and the trees they build

A tree in flat form is a sequence of events: constructs open, close, and stand alone.
`Event.toNodes?` builds the trees of a sequence in which every closing event has an opening one.
-/

namespace ProposalCheck.Markup

/-- A step of a tree in flat form. -/
inductive Event where
  | opening (construct : Construct) (lines : Option LineSpan)
  | closing (construct : Construct)
  | leaf (construct : Construct) (lines : Option LineSpan) (children : List Node)
deriving Repr, Inhabited

namespace Event

/-- A text that stands alone. -/
def text (s : String) : Event :=
  .leaf (.text s) none []

/-- The text of an event that is one. -/
def text? : Event → Option String
  | .leaf (.text s) _ _ => some s
  | _ => none

/-- A node that is open while its children are built, with the nodes before it, last one first. -/
structure Frame where
  construct : Construct
  lines : Option LineSpan
  before : List Node
deriving Inhabited

/-- Builds nodes from events, after the nodes `done` (last one first) inside the open frames. -/
def build : List Event → List Node → List Frame → Option (List Node)
  | [], done, [] => some done.reverse
  | [], _, _ :: _ => none
  | .leaf c l cs :: es, done, fs => build es (.node c l cs :: done) fs
  | .opening c l :: es, done, fs => build es [] (⟨c, l, done⟩ :: fs)
  | .closing _ :: es, done, f :: fs =>
    build es (.node f.construct f.lines done.reverse :: f.before) fs
  | .closing _ :: _, _, [] => none

/-- The trees of a sequence of events, unless one of its constructs closes before it opens or never
closes. -/
def toNodes? (es : List Event) : Option (List Node) :=
  build es [] []

end Event

end ProposalCheck.Markup
