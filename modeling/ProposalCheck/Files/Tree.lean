import ProposalCheck.Files.Basic

/-!
# A tree of files

A `FileTree` holds files and directories under their paths, which are read from one directory, the
root of the tree. `FileTree.look` finds what is at any path. Above the root there are only
directories, in which nothing has a name.
-/

namespace ProposalCheck

/-- Files with their bytes, and directories, by their names from the root on. -/
structure FileTree where
  places : List (List String × Option (List UInt8)) := []
deriving Repr, Inhabited

namespace FileTree

/-- The largest number of bytes in one name. -/
def maxNameBytes : Nat := 255

/-- The number of bytes that a path has fewer of. -/
def maxPathBytes : Nat := 4096

/-- Puts a file or a directory at a path. -/
def put (t : FileTree) (p : Path) (content : Option (List UInt8)) : FileTree :=
  { places := (p.names, content) :: t.places }

/-- The name that comes after the names of a directory, if a place is in it. -/
def nameIn (directory place : List String) : Option String :=
  if directory.isPrefixOf place then place[directory.length]? else none

/-- The names in a directory. -/
def namesIn (t : FileTree) (directory : List String) : List String :=
  (t.places.filterMap fun e => nameIn directory e.1).eraseDups

/-- What is at a place in the tree. -/
def entry? (t : FileTree) (place : List String) : Option Entry :=
  match t.places.find? (·.1 == place) with
  | some (_, some bytes) => some (.file bytes)
  | some (_, none) => some (.directory (t.namesIn place))
  | none =>
    let names := t.namesIn place
    if names.isEmpty && !place.isEmpty then none else some (.directory names)

/-- Goes along names from a place in the tree on; `none` is a place above the root. -/
def walk (t : FileTree) : Option (List String) → List String → Except FileError Entry
  | none, [] => .ok (.directory [])
  | none, n :: ns => if n == ".." then walk t none ns else .error .missing
  | some place, names =>
    match t.entry? place, names with
    | none, _ => .error .missing
    | some e, [] => .ok e
    | some (.file _), _ :: _ => .error .notDirectory
    | some (.directory _), n :: ns =>
      if n == ".." then walk t (if place.isEmpty then none else some place.dropLast) ns
      else if maxNameBytes < n.utf8ByteSize then .error .nameTooLong
      else walk t (some (place ++ [n])) ns
termination_by _ names => names.length

/-- What is at a path. -/
def look (t : FileTree) : Files := fun p =>
  if p.text.toList.contains '\x00' then .error .impossibleName
  else if maxPathBytes ≤ p.text.utf8ByteSize then .error .nameTooLong
  else t.walk (if p.root == .relative then some [] else none) p.names

end FileTree

end ProposalCheck
