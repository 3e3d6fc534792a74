import ProposalCheck.Path
import ProposalCheck.Text.Quoted

/-!
# References

A document refers to another one by a path or by the number of a proposal. A `Reference` is such a
reference read from the place of the document, so that two documents, or two spellings, that mean
the same place give the same reference.
-/

namespace ProposalCheck

/-- What a document refers to. -/
inductive Reference where
  /-- The document at a path, which is written in normal form. -/
  | path (text : String)
  /-- The proposal with a number in the directory `root`. -/
  | proposal (root : String) (number : Int)
deriving DecidableEq, Repr, Inhabited

/-- The directory from which the references of the document at a path are read. -/
def Path.directory : Option Path → Path
  | none => .here
  | some p => p.parent

/-- The name of a document that has a directory of its own. -/
def Path.indexName : String := "index.md"

/-- The directory that holds a proposal and its siblings. A proposal with a directory of its own has
its siblings one level up. -/
def Path.proposalRoot (p : Option Path) : String :=
  let directory := Path.directory p
  let root := if p.any (·.name == Path.indexName) then directory.child ".." else directory
  root.normal.text

namespace Reference

/-- The reference by a path, read from a directory. -/
def ofPath (directory : Path) (requested : String) : Reference :=
  path (directory.resolve (Path.ofText requested)).normal.text

/-- The reference by a number from the document at a path. -/
def ofNumber (p : Option Path) (number : Int) : Reference :=
  proposal (Path.proposalRoot p) number

/-- The words by which a reference is named to the reader. -/
def describe : Reference → String
  | path text => text
  | proposal _ number => "proposal " ++ toString number

/-- The text by which references are ordered. -/
def sortText : Reference → String
  | path text => text
  | proposal root number => "(" ++ Text.quoted root ++ ", " ++ toString number ++ ")"

/-- References in the order in which they are followed. -/
def sorted (rs : List Reference) : List Reference :=
  rs.mergeSort fun a b => decide (a.sortText ≤ b.sortText)

end Reference

end ProposalCheck
