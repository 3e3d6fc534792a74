import ProposalCheck.Lint.Fault

/-!
# A document as a rule sees it

A `Context` is a document together with what its references lead to and the level at which findings
are reported. Following a reference gives the context of the other document.
-/

namespace ProposalCheck

/-- A document under the rules. -/
structure Context where
  document : Document
  cache : Cache FetchError Document
  level : Level
  settings : Settings
deriving Inhabited

namespace Document

/-- The reference by a path that is read from the place of the document. -/
def pathReference (d : Document) (requested : String) : Reference :=
  .ofPath (Path.directory d.path) requested

/-- The reference to the sibling of a number. -/
def siblingReference (d : Document) (number : Int) : Reference :=
  .ofNumber d.path number

end Document

namespace Context

/-- The origin of the document. -/
def origin (c : Context) : Option String := c.document.origin

/-- The preamble of the document. -/
def preamble (c : Context) : Preamble := c.document.preamble

/-- The document that a reference leads to, under the same level and settings. -/
def follow (c : Context) (r : Reference) : Except (LookupError FetchError) Context :=
  (c.cache.lookup r).map fun d => { c with document := d }

/-- The document at a path. -/
def atPath (c : Context) (requested : String) : Except (LookupError FetchError) Context :=
  c.follow (c.document.pathReference requested)

/-- The sibling with a number. -/
def sibling (c : Context) (number : Int) : Except (LookupError FetchError) Context :=
  c.follow (c.document.siblingReference number)

/-- An excerpt of one line of the preamble. -/
def fieldSnippet (c : Context) (f : Field) : Snippet :=
  { source := f.source, lineStart := f.line, origin := c.origin }

end Context

end ProposalCheck
