import ProposalCheck.Text.Lines

/-!
# Paths

A path is a root and a list of names. `Path.ofText` leaves out empty names and single dots;
`Path.normal` also resolves double dots by name, so that two ways of writing a place agree.
-/

namespace ProposalCheck

/-- Where a path starts. Two slashes in front are a root of their own, more than two are one. -/
inductive Root where
  | relative
  | slash
  | doubleSlash
deriving DecidableEq, Repr, Inhabited

/-- A path of a file or a directory. -/
structure Path where
  root : Root := .relative
  names : List String
deriving DecidableEq, Repr, Inhabited

namespace Path

/-- The text of a root. -/
def rootText : Root → String
  | .relative => ""
  | .slash => "/"
  | .doubleSlash => "//"

/-- The root with which a text starts. -/
def rootOf : List Char → Root
  | '/' :: '/' :: '/' :: _ => .slash
  | '/' :: '/' :: _ => .doubleSlash
  | '/' :: _ => .slash
  | _ => .relative

/-- The path that a text denotes. -/
def ofText (s : String) : Path :=
  { root := rootOf s.toList
    names := (Text.splitOn '/' s).filter fun n => n != "" && n != "." }

/-- The text of a path. -/
def text (p : Path) : String :=
  if p.root == .relative && p.names.isEmpty then "."
  else rootText p.root ++ "/".intercalate p.names

/-- The directory of relative paths. -/
def here : Path := { names := [] }

/-- The path read from a directory on; a path with a root does not depend on the directory. -/
def resolve (directory p : Path) : Path :=
  if p.root == .relative then { directory with names := directory.names ++ p.names } else p

/-- The place one name further down. -/
def child (p : Path) (name : String) : Path :=
  p.resolve (ofText name)

/-- The path without its last name. -/
def parent (p : Path) : Path :=
  { p with names := p.names.dropLast }

/-- The last name of a path, empty if there is none. -/
def name (p : Path) : String :=
  p.names.getLast?.getD ""

/-- The names with double dots resolved, after the names `done`, the last one first. Above a root
there is nothing. -/
def normalNames (rooted : Bool) : List String → List String → List String
  | done, [] => done.reverse
  | done, n :: ns =>
    if n == ".." then
      match done with
      | [] => normalNames rooted (if rooted then [] else [".."]) ns
      | d :: ds => normalNames rooted (if d == ".." then n :: d :: ds else ds) ns
    else normalNames rooted (n :: done) ns

/-- The path with double dots resolved as far as names go. -/
def normal (p : Path) : Path :=
  { p with names := normalNames (p.root != .relative) [] p.names }

end Path

end ProposalCheck
