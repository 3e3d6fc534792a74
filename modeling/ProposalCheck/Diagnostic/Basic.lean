import ProposalCheck.Diagnostic.Level
import ProposalCheck.Text.Utf8

/-!
# Diagnostics

A `Message` is what a rule reports: a level, the slug of the rule, a title, excerpts of source text
(`Snippet`) with marked byte ranges (`Highlight`), and footers, which are messages themselves.

Ranges are byte offsets into the UTF-8 encoding of the excerpt. `Level.spanChars` builds them from
character positions, so that they never split a character.
-/

namespace ProposalCheck

/-- A byte range of an excerpt, with a level and perhaps a label. -/
structure Highlight where
  start : Int
  stop : Int
  level : Level
  label : Option String := none
deriving DecidableEq, Repr, Inhabited

/-- An excerpt of source text and the number of its first line. -/
structure Snippet where
  source : String
  lineStart : Int := 1
  origin : Option String := none
  annotations : List Highlight := []
  /-- Whether lines far from every annotation are left out. -/
  fold : Bool := false
deriving DecidableEq, Repr, Inhabited

/-- A complete diagnostic. -/
structure Message where
  level : Level
  title : String
  id : Option String := none
  snippets : List Snippet := []
  footers : List Message := []
deriving Repr, Inhabited, BEq

namespace Level

/-- A message of this level without excerpts and footers. -/
def message (level : Level) (title : String) : Message :=
  { level, title }

/-- An annotation of this level on a byte range. -/
def span (level : Level) (start stop : Int) : Highlight :=
  { start, stop, level }

/-- An annotation of this level on `length` characters of a text from character `start` on. -/
def spanChars (level : Level) (text : String) (start length : Int) : Highlight :=
  let range := Text.byteRange text.toList start length
  level.span range.1 range.2

end Level

namespace Highlight

/-- The annotation with a label. -/
def withLabel (a : Highlight) (label : String) : Highlight :=
  { a with label := some label }

end Highlight

namespace Snippet

/-- The excerpt with one more annotation after its others. -/
def annotate (s : Snippet) (a : Highlight) : Snippet :=
  { s with annotations := s.annotations ++ [a] }

/-- The excerpt with further annotations after its others. -/
def annotateAll (s : Snippet) (as : List Highlight) : Snippet :=
  { s with annotations := s.annotations ++ as }

end Snippet

namespace Message

/-- The message with the slug of the rule that gives it. -/
def withId (m : Message) (id : String) : Message :=
  { m with id := some id }

/-- The message with one more excerpt after its others. -/
def addSnippet (m : Message) (s : Snippet) : Message :=
  { m with snippets := m.snippets ++ [s] }

/-- The message with further excerpts after its others. -/
def addSnippets (m : Message) (ss : List Snippet) : Message :=
  { m with snippets := m.snippets ++ ss }

/-- The message with one more footer after its others. -/
def addFooter (m : Message) (f : Message) : Message :=
  { m with footers := m.footers ++ [f] }

/-- The message with further footers after its others. -/
def addFooters (m : Message) (fs : List Message) : Message :=
  { m with footers := m.footers ++ fs }

/-- The message with its last excerpt changed; `none` when it has no excerpt. -/
def modifyLast? (m : Message) (f : Snippet → Snippet) : Option Message :=
  match m.snippets.getLast? with
  | none => none
  | some s => some { m with snippets := m.snippets.dropLast ++ [f s] }

end Message

end ProposalCheck
